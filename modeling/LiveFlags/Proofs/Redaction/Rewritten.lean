import LiveFlags.Proofs.Redaction.Pieces
import LiveFlags.Redaction.Rules

/-!
# Patterns in a rewritten text

When matches of one pattern are replaced, a match of another may arise from what is written and what
stands around it. For a pattern without word boundaries that has no brackets in its words,
`not_occursIn_written` excludes this: each text that is written ends with a label in capitals and in
brackets, so a match would begin at a character that stays, and what it takes of a written text
could be exchanged for a piece of the text that stood there.
-/

namespace LiveFlags.Redaction

open Position Piece

/-! ### Finding a word among the parts -/

/-- A word without a character lies to the left or to the right of this character. -/
theorem left_or_right {α : Type} {x w y a b : List α} {d : α}
    (h : x ++ (w ++ y) = a ++ d :: b) (hd : d ∉ w) :
    (∃ z, a = x ++ (w ++ z)) ∨ ∃ z, x = a ++ d :: z ∧ z ++ (w ++ y) = b := by
  rcases List.append_eq_append_iff.1 h with ⟨a', rfl, hright⟩ | ⟨x', rfl, hright⟩
  · rcases List.append_eq_append_iff.1 hright with ⟨z, rfl, -⟩ | ⟨w', rfl, hd'⟩
    · exact .inl ⟨z, rfl⟩
    · cases w' with
      | nil => exact .inl ⟨[], by simp⟩
      | cons e w' =>
        obtain ⟨rfl, -⟩ := List.cons.inj hd'
        exact absurd (List.mem_append_right _ List.mem_cons_self) hd
  · cases x' with
    | nil =>
      cases w with
      | nil => exact .inl ⟨[], by simp⟩
      | cons e w =>
        obtain ⟨rfl, -⟩ := List.cons.inj hright
        exact absurd List.mem_cons_self hd
    | cons e x' =>
      obtain ⟨rfl, rfl⟩ := List.cons.inj hright
      exact .inr ⟨x', rfl, rfl⟩

/-- Each character of a text comes from one of the parts. -/
theorem exists_piece {g : Piece → List Char} {ps : List Piece} {pre post : List Char} {c : Char}
    (h : ps.flatMap g = pre ++ c :: post) :
    ∃ before piece after x y, ps = before ++ piece :: after ∧ g piece = x ++ c :: y ∧
      pre = before.flatMap g ++ x ∧ post = y ++ after.flatMap g := by
  induction ps generalizing pre with
  | nil => cases pre <;> cases h
  | cons piece ps ih =>
    rw [List.flatMap_cons] at h
    -- The character stands in the first part or behind it.
    rcases List.append_eq_append_iff.1 h with ⟨pre', rfl, hlater⟩ | ⟨y, hpiece, hlater⟩
    · obtain ⟨before, found, after, x, y, rfl, hfound, rfl, rfl⟩ := ih hlater
      exact ⟨piece :: before, found, after, x, y, rfl, hfound, by simp, rfl⟩
    · cases y with
      | nil =>
        rw [← List.nil_append (c :: post)] at hlater
        obtain ⟨before, found, after, x, y, rfl, hfound, hpre, rfl⟩ := ih hlater.symm
        refine ⟨piece :: before, found, after, x, y, rfl, hfound, ?_, rfl⟩
        rw [List.flatMap_cons, List.append_assoc, ← hpre, hpiece]
        simp
      | cons d y =>
        obtain ⟨rfl, rfl⟩ := List.cons.inj hlater
        exact ⟨[], piece, ps, pre, y, rfl, hpiece, rfl, rfl⟩

variable {substitute : List Char → List Char}

/-- Each character of the new text stays or belongs to what is written for a match. -/
theorem kept_or_taken {ps : List Piece} {pre post : List Char} {c : Char}
    (h : ps.flatMap (written substitute) = pre ++ c :: post) :
    (∃ before after, ps = before ++ kept c :: after ∧
      pre = before.flatMap (written substitute) ∧ post = after.flatMap (written substitute)) ∨
    ∃ before text after x y, ps = before ++ taken text :: after ∧ substitute text = x ++ c :: y ∧
      post = y ++ after.flatMap (written substitute) := by
  obtain ⟨before, piece, after, x, y, rfl, hpiece, rfl, rfl⟩ := exists_piece h
  cases piece with
  | kept d =>
    obtain ⟨rfl, rfl, rfl⟩ : x = [] ∧ c = d ∧ y = [] := by
      simpa [List.singleton_eq_append_iff] using hpiece
    exact .inl ⟨before, after, rfl, by simp, rfl⟩
  | taken text => exact .inr ⟨before, text, after, x, y, rfl, hpiece, rfl⟩

/-- A text that begins with a word begins with characters that stay, up to the end of the word or
to a match in it. -/
theorem exists_kept_prefix {ps : List Piece} {w rest : List Char}
    (h : ps.flatMap (written substitute) = w ++ rest) :
    (∃ after, ps = w.map kept ++ after ∧ rest = after.flatMap (written substitute)) ∨
      ∃ ks t text after, w = ks ++ t ∧ t ≠ [] ∧ ps = ks.map kept ++ taken text :: after ∧
        t ++ rest = substitute text ++ after.flatMap (written substitute) := by
  induction w generalizing ps with
  | nil => exact .inl ⟨ps, rfl, h.symm⟩
  | cons c w ih =>
    cases ps with
    | nil => cases h
    | cons piece ps =>
      cases piece with
      | kept d =>
        obtain ⟨rfl, hlater⟩ := List.cons.inj h
        rcases ih hlater with ⟨after, rfl, hrest⟩ | ⟨ks, t, text, after, rfl, ht, rfl, hrest⟩
        · exact .inl ⟨after, rfl, hrest⟩
        · exact .inr ⟨d :: ks, t, text, after, rfl, ht, rfl, hrest⟩
      | taken text => exact .inr ⟨[], c :: w, text, ps, rfl, List.cons_ne_nil _ _, rfl, h.symm⟩

/-- A character that is never written stays. -/
theorem exists_kept {ps : List Piece} {pre post : List Char} {c : Char}
    (hnew : ∀ text, taken text ∈ ps → c ∉ substitute text)
    (h : ps.flatMap (written substitute) = pre ++ c :: post) :
    ∃ before after, ps = before ++ kept c :: after ∧
      pre = before.flatMap (written substitute) ∧ post = after.flatMap (written substitute) := by
  rcases kept_or_taken h with hkept | ⟨before, text, after, x, y, rfl, htext, -⟩
  · exact hkept
  · have hmem : c ∈ substitute text := by
      rw [htext]
      exact List.mem_append_right _ List.mem_cons_self
    exact absurd hmem (hnew text (by simp))

/-- A word consists of characters that stay if its first character is never written and nothing
that is written begins with one of the others. -/
theorem exists_kept_word {ps : List Piece} {pre w rest : List Char} {c : Char}
    (hfirst : ∀ text, taken text ∈ ps → c ∉ substitute text)
    (hlater : ∀ text, taken text ∈ ps → ∃ d, (substitute text).head? = some d ∧ d ∉ w)
    (h : ps.flatMap (written substitute) = pre ++ (c :: w ++ rest)) :
    ∃ before after, ps = before ++ ((c :: w).map kept ++ after) ∧
      pre = before.flatMap (written substitute) ∧
      rest = after.flatMap (written substitute) := by
  obtain ⟨before, behind, rfl, hpre, hpost⟩ := exists_kept hfirst h
  rcases exists_kept_prefix hpost.symm with
    ⟨after, rfl, hrest⟩ | ⟨ks, t, text, after, rfl, ht, rfl, hrest⟩
  · exact ⟨before, after, rfl, hpre, hrest⟩
  · obtain ⟨d, hd, hnotin⟩ := hlater text (by simp)
    obtain ⟨e, t, rfl⟩ := List.exists_cons_of_ne_nil ht
    obtain ⟨y, hy⟩ := List.head?_eq_some_iff.1 hd
    obtain ⟨rfl, -⟩ : e = d ∧ _ := List.cons.inj (by rw [hy] at hrest; exact hrest)
    exact absurd (by simp) hnotin

/-- What holds of all characters of the new text holds of those of the old text if it does of the
matches. -/
theorem forall_mem_old {good : Char → Prop} {ps : List Piece}
    (hnew : ∀ c ∈ ps.flatMap (written substitute), good c)
    (htaken : ∀ text, taken text ∈ ps → (∀ c ∈ substitute text, good c) → ∀ c ∈ text, good c) :
    ∀ c ∈ ps.flatMap old, good c := by
  intro c hc
  obtain ⟨piece, hpiece, hc⟩ := List.mem_flatMap.1 hc
  cases piece with
  | kept d => exact hnew c (List.mem_flatMap.2 ⟨_, hpiece, hc⟩)
  | taken text =>
    exact htaken text hpiece (fun d hd => hnew d (List.mem_flatMap.2 ⟨_, hpiece, hd⟩)) c hc

/-! ### Counting a character -/

/-- A character gets no more frequent if no replacement has more of it. -/
theorem count_written_le {c : Char} {ps : List Piece}
    (h : ∀ text, taken text ∈ ps → (substitute text).count c ≤ text.count c) :
    (ps.flatMap (written substitute)).count c ≤ (ps.flatMap old).count c := by
  induction ps with
  | nil => exact Nat.le_refl _
  | cons piece ps ih =>
    have hrest := ih fun text htext => h text (List.mem_cons_of_mem _ htext)
    rw [List.flatMap_cons, List.flatMap_cons, List.count_append, List.count_append]
    cases piece with
    | kept d => exact Nat.add_le_add_left hrest _
    | taken text => exact Nat.add_le_add (h text List.mem_cons_self) hrest

theorem count_written_lt {c : Char} {ps : List Piece}
    (h : ∀ text, taken text ∈ ps → (substitute text).count c < text.count c)
    {text : List Char} (htext : taken text ∈ ps) :
    (ps.flatMap (written substitute)).count c < (ps.flatMap old).count c := by
  obtain ⟨before, after, rfl⟩ := List.append_of_mem htext
  have hbefore := count_written_le fun text htext =>
    Nat.le_of_lt (h text (List.mem_append_left _ htext))
  have hafter := count_written_le fun text htext =>
    Nat.le_of_lt (h text (List.mem_append_right _ (List.mem_cons_of_mem _ htext)))
  have hless := h text htext
  simp only [List.flatMap_append, List.flatMap_cons, List.count_append, old_taken, written_taken]
  omega

namespace Pattern

variable {p q : Pattern} {cs : List Char} {ps : List Piece}

/-! ### What is replaced -/

/-- What is replaced is a word of the pattern. -/
theorem Scans.spells_of_mem (h : Scans p (start cs) ps) {text : List Char}
    (htext : taken text ∈ ps) : p.Spells text := by
  obtain ⟨before, after, rfl⟩ := List.append_of_mem htext
  obtain ⟨w, hw, hrest, -⟩ := h.matches_taken.exists_spells
  obtain rfl : text = w := List.append_cancel_right hrest
  exact hw

theorem flatMap_old_pieces (hp : 0 < p.shortest) (cs : List Char) :
    (p.pieces cs).flatMap old = cs :=
  (scans_pieces hp cs).rest_eq.symm

/-- If the pattern occurs, something is replaced. -/
theorem OccursIn.exists_taken (hp : 0 < p.shortest) (h : p.OccursIn cs) :
    ∃ text, taken text ∈ p.pieces cs := by
  obtain ⟨pre, post, j, rfl, hmatches⟩ := h
  have hscans := scans_pieces hp (pre ++ post)
  obtain ⟨w, hw, hpost, -⟩ := hmatches.exists_spells
  obtain ⟨c, w, rfl⟩ : ∃ c w', w = c :: w' :=
    List.exists_cons_of_length_pos (Nat.lt_of_lt_of_le hp hw.shortest_le)
  obtain rfl : post = c :: (w ++ j.rest) := hpost
  have hold : (p.pieces (pre ++ c :: (w ++ j.rest))).flatMap (written id) =
      pre ++ c :: (w ++ j.rest) := by
    rw [written_id, flatMap_old_pieces hp]
  rcases kept_or_taken hold with
    ⟨before, after, hpieces, hbefore, hafter⟩ | ⟨before, text, after, x, y, hpieces, -⟩
  · rw [written_id] at hbefore hafter
    rw [hpieces] at hscans
    rw [hbefore, hafter] at hmatches
    exact absurd hmatches (hscans.not_matches j)
  · exact ⟨text, by simp [hpieces]⟩

/-- The pattern matches the searched text at no character that stays. -/
def Avoids (q : Pattern) (ps : List Piece) : Prop :=
  ∀ before c after j, ps = before ++ kept c :: after →
    ¬ Matches q ⟨(before.flatMap old).getLast?, c :: after.flatMap old⟩ j

/-- The pattern itself matches nowhere among the characters that stay. -/
theorem Scans.avoids (h : Scans p (start cs) ps) : p.Avoids ps := by
  rintro before c after j rfl
  exact h.not_matches j

theorem Scans.avoids_of_not_occursIn (h : Scans p (start cs) ps) (hq : ¬ q.OccursIn cs) :
    q.Avoids ps := by
  rintro before c after j rfl hmatches
  refine hq ⟨before.flatMap old, c :: after.flatMap old, j, ?_, hmatches⟩
  rw [show cs = (start cs).rest from rfl, h.rest_eq, List.flatMap_append]
  rfl

/-- A text in which nothing matches stays as it is. -/
theorem replaceAll_of_not_occursIn (hp : 0 < p.shortest) (h : ¬ p.OccursIn cs) :
    p.replaceAll substitute cs = cs := by
  have hscans := scans_pieces hp cs
  have hkept : ∀ piece ∈ p.pieces cs, piece.written substitute = piece.old := by
    intro piece hpiece
    cases piece with
    | kept c => rfl
    | taken text =>
      obtain ⟨before, after, heq⟩ := List.append_of_mem hpiece
      rw [heq] at hscans
      refine absurd ⟨before.flatMap old, text ++ after.flatMap old, _, ?_, hscans.matches_taken⟩ h
      rw [show cs = (start cs).rest from rfl, hscans.rest_eq, List.flatMap_append]
      rfl
  have hold : (p.pieces cs).flatMap (written substitute) = (p.pieces cs).flatMap old := by
    rw [List.flatMap_def, List.flatMap_def, List.map_congr_left hkept]
  rw [replaceAll_eq, hold, flatMap_old_pieces hp]

theorem Spells.occursIn {w : List Char} (hw : q.Spells w) (hfree : q.isFree = true)
    (pre post : List Char) : q.OccursIn (pre ++ (w ++ post)) :=
  ⟨pre, w ++ post, _, rfl, hw.matches hfree _ _⟩

theorem OccursIn.exists_spells (h : q.OccursIn cs) :
    ∃ pre w post, cs = pre ++ (w ++ post) ∧ q.Spells w := by
  obtain ⟨pre, post, j, rfl, hmatches⟩ := h
  obtain ⟨w, hw, hrest, -⟩ := hmatches.exists_spells
  exact ⟨pre, w, j.rest, by rw [← hrest], hw⟩

/-- No word of the pattern begins with a character that stays and runs through what stood behind it.
-/
theorem Avoids.not_spells (hq : q.Avoids ps) (hfree : q.isFree = true) {before after : List Piece}
    {c : Char} {w rest : List Char} (hps : ps = before ++ kept c :: after)
    (hold : after.flatMap old = w ++ rest) : ¬ q.Spells (c :: w) := by
  intro hw
  have hmatches := hw.matches hfree (before.flatMap old).getLast? rest
  rw [List.cons_append, ← hold] at hmatches
  exact hq before c after _ hps hmatches

/-! ### Patterns without boundaries and brackets -/

/-- The pattern has neither word boundaries nor brackets, and each of its words has a character that
is not a capital. -/
structure Plain (q : Pattern) : Prop where
  free : q.isFree = true
  noOpening : q.admits '[' = false
  noClosing : q.admits ']' = false
  lower : q.Requires fun c => c.isUpper = false

/-- What is written for a text: a short head and a label in brackets. If the head completes a word
of `q`, so does the beginning of the text. -/
inductive Hides (q : Pattern) (text : List Char) : List Char → Prop where
  | intro {head label : List Char} (short : head.length < q.shortest)
    (capitals : ∀ c ∈ label, c.isUpper = true)
    (completed : ∀ x y, x ≠ [] → y ≠ [] → y <+: head → q.Spells (x ++ y) →
      ∃ z, z <+: text ∧ q.Spells (x ++ z)) :
    Hides q text (head ++ '[' :: (label ++ [']']))

theorem Plain.opening_not_mem (hq : q.Plain) {w : List Char} (hw : q.Spells w) : '[' ∉ w := by
  intro h
  have := hw.admits _ h
  rw [hq.noOpening] at this
  cases this

theorem Plain.closing_not_mem (hq : q.Plain) {w : List Char} (hw : q.Spells w) : ']' ∉ w := by
  intro h
  have := hw.admits _ h
  rw [hq.noClosing] at this
  cases this

/-- A word does not begin in what is written. -/
theorem Hides.not_begins (hq : q.Plain) {text new : List Char} (h : q.Hides text new)
    {x w y rest rest' : List Char} {c : Char} (hw : q.Spells (c :: w)) (hnew : new = x ++ c :: y)
    (hrest : w ++ rest = y ++ rest') : False := by
  obtain @⟨head, label, hshort, hcapitals, -⟩ := h
  have htext : x ++ ((c :: w) ++ rest) = head ++ '[' :: (label ++ ']' :: rest') := by
    calc x ++ ((c :: w) ++ rest) = (x ++ c :: y) ++ rest' := by simp [hrest]
      _ = head ++ '[' :: (label ++ ']' :: rest') := by simp [← hnew]
  rcases left_or_right htext (hq.opening_not_mem hw) with ⟨z, rfl⟩ | ⟨z, rfl, hlater⟩
  · have := hw.shortest_le
    simp only [List.length_append, List.length_cons] at hshort this
    omega
  · rcases left_or_right hlater (hq.closing_not_mem hw) with ⟨z', rfl⟩ | ⟨z', rfl, -⟩
    · obtain ⟨d, hd, hlower⟩ := hq.lower.exists_mem hw
      have hupper := hcapitals d (by simp only [List.mem_append]; exact .inr (.inl hd))
      rw [hlower] at hupper
      cases hupper
    · have := congrArg List.length hnew
      simp only [List.length_append, List.length_cons, List.length_nil] at this
      omega

/-- What a word takes of a text that is written, it could take of the text that stood there. -/
theorem Hides.completes {text new : List Char} (h : q.Hides text new) {c : Char}
    {x y rest rest' : List Char} (hw : q.Spells (c :: (x ++ y))) (hy : y ≠ []) (hopening : '[' ∉ y)
    (hnew : y ++ rest = new ++ rest') : ∃ z, z <+: text ∧ q.Spells (c :: (x ++ z)) := by
  obtain @⟨head, label, -, -, hcompleted⟩ := h
  have hsplit : [] ++ (y ++ rest) = head ++ '[' :: ((label ++ [']']) ++ rest') := by
    rw [List.nil_append, hnew, List.append_assoc]
    rfl
  rcases left_or_right hsplit hopening with ⟨z, hz⟩ | ⟨z, hz, -⟩
  · exact hcompleted (c :: x) y (List.cons_ne_nil _ _) hy ⟨z, hz.symm⟩ hw
  · simp at hz

/-- **A pattern does not arise from a replacement that hides it.** -/
theorem not_occursIn_written (hq : q.Plain) (havoids : q.Avoids ps)
    (hhides : ∀ text, taken text ∈ ps → q.Hides text (substitute text)) :
    ¬ q.OccursIn (ps.flatMap (written substitute)) := by
  intro h
  obtain ⟨pre, w, post, htext, hw⟩ := h.exists_spells
  obtain ⟨d, hd, -⟩ := hq.lower.exists_mem hw
  obtain ⟨c, w, rfl⟩ : ∃ c w', w = c :: w' := List.exists_cons_of_ne_nil (List.ne_nil_of_mem hd)
  rcases kept_or_taken htext with
    ⟨before, after, hps, -, hpost⟩ | ⟨before, text, after, x, y, hps, hsubstitute, hpost⟩
  · -- The word consists of characters that stay, apart from what it takes of a head.
    rcases exists_kept_prefix hpost.symm with
      ⟨later, rfl, -⟩ | ⟨ks, t, text, after, rfl, ht, rfl, hrest⟩
    · have hold : (w.map kept ++ later).flatMap old = w ++ later.flatMap old := by simp
      exact havoids.not_spells hq.free hps hold hw
    · have hopening : '[' ∉ t := fun hmem =>
        hq.opening_not_mem hw (List.mem_cons_of_mem _ (List.mem_append_right _ hmem))
      obtain ⟨z, ⟨z', rfl⟩, hz⟩ :=
        (hhides text (by simp [hps])).completes hw ht hopening hrest
      have hold : (ks.map kept ++ taken (z ++ z') :: after).flatMap old =
          (ks ++ z) ++ (z' ++ after.flatMap old) := by simp
      exact havoids.not_spells hq.free hps hold hz
  · exact (hhides text (by simp [hps])).not_begins hq hw hsubstitute hpost

theorem spells_of_mem_pieces (hp : 0 < p.shortest) {text : List Char}
    (htext : taken text ∈ p.pieces cs) : p.Spells text :=
  (scans_pieces hp cs).spells_of_mem htext

end Pattern

/-! ### Rules -/

namespace Rule

open Pattern

variable {rule : Rule} {q : Pattern} {cs : List Char} {c : Char}

/-- The text after a rule is applied. -/
def apply (rule : Rule) (cs : List Char) : List Char :=
  rule.pattern.replaceAll rule.substitute cs

theorem apply_eq (cs : List Char) :
    rule.apply cs = (rule.pattern.pieces cs).flatMap (written rule.substitute) :=
  replaceAll_eq cs

/-- A rule leaves a text alone in which its pattern does not occur. -/
theorem apply_of_not_occursIn (hp : 0 < rule.pattern.shortest)
    (h : ¬ rule.pattern.OccursIn cs) : rule.apply cs = cs :=
  replaceAll_of_not_occursIn hp h

/-- A rule that hides its own pattern removes it. -/
theorem not_occursIn_self (hp : 0 < rule.pattern.shortest) (hplain : rule.pattern.Plain)
    (hhides : ∀ text, rule.pattern.Spells text → rule.pattern.Hides text (rule.substitute text))
    (cs : List Char) : ¬ rule.pattern.OccursIn (rule.apply cs) := by
  rw [apply_eq]
  exact not_occursIn_written hplain (scans_pieces hp cs).avoids
    fun text htext => hhides text (spells_of_mem_pieces hp htext)

/-- A rule that hides another pattern does not create it. -/
theorem not_occursIn_apply (hp : 0 < rule.pattern.shortest) (hplain : q.Plain)
    (hhides : ∀ text, rule.pattern.Spells text → q.Hides text (rule.substitute text))
    (hq : ¬ q.OccursIn cs) : ¬ q.OccursIn (rule.apply cs) := by
  rw [apply_eq]
  exact not_occursIn_written hplain ((scans_pieces hp cs).avoids_of_not_occursIn hq)
    fun text htext => hhides text (spells_of_mem_pieces hp htext)

/-- A rule makes no character more frequent that its replacements do not have more of. -/
theorem count_apply_le (hp : 0 < rule.pattern.shortest)
    (h : ∀ text, rule.pattern.Spells text → (rule.substitute text).count c ≤ text.count c)
    (cs : List Char) : (rule.apply cs).count c ≤ cs.count c := by
  calc (rule.apply cs).count c
      = ((rule.pattern.pieces cs).flatMap (written rule.substitute)).count c := by rw [apply_eq]
    _ ≤ ((rule.pattern.pieces cs).flatMap old).count c :=
        count_written_le fun text htext => h text (spells_of_mem_pieces hp htext)
    _ = cs.count c := by rw [flatMap_old_pieces hp]

/-- A rule makes a character less frequent that goes with each word it replaces. -/
theorem count_apply_lt (hp : 0 < rule.pattern.shortest)
    (h : ∀ text, rule.pattern.Spells text → (rule.substitute text).count c < text.count c)
    (hoccurs : rule.pattern.OccursIn cs) : (rule.apply cs).count c < cs.count c := by
  obtain ⟨text, htext⟩ := hoccurs.exists_taken hp
  calc (rule.apply cs).count c
      = ((rule.pattern.pieces cs).flatMap (written rule.substitute)).count c := by rw [apply_eq]
    _ < ((rule.pattern.pieces cs).flatMap old).count c :=
        count_written_lt (fun text htext => h text (spells_of_mem_pieces hp htext)) htext
    _ = cs.count c := by rw [flatMap_old_pieces hp]

end Rule

end LiveFlags.Redaction
