import LiveFlags.Proofs.Redaction.Rewritten
import LiveFlags.Proofs.Text.CharClass

/-!
# Addresses between word boundaries

An IPv4 address stands between word boundaries, so whether four groups of digits are one depends on
the characters around them. Where an IPv4 address or an e-mail address is replaced, no word
character stays directly before or behind it (`Fenced`). Hence the characters that stay have the
same boundaries before and after the replacement, and it does not create an IPv4 address.
-/

namespace LiveFlags.Redaction

open Position Piece Pattern

variable {cs : List Char} {ps : List Piece} {substitute : List Char → List Char}

/-! ### Digits and dots -/

/-- Four groups of one to three digits, without the boundaries. -/
def dottedDigits : List Pattern :=
  let group := Pattern.run isDecimalDigit 1 (some 3)
  let dot := Pattern.one (· == '.')
  [group, dot, group, dot, group, dot, group]

theorem matches_boundary {i j : Position} :
    Matches .boundary i j ↔ i.atBoundary = true ∧ i = j := by
  constructor
  · intro h
    cases h with
    | boundary hi => exact ⟨hi, rfl⟩
  · rintro ⟨hi, rfl⟩
    exact .boundary hi

theorem matches_ipAddress_iff {i j : Position} :
    Matches ipAddress.pattern i j ↔
      i.atBoundary = true ∧ Matches (.all dottedDigits) i j ∧ j.atBoundary = true := by
  rw [show ipAddress.pattern = .all (.boundary :: (dottedDigits ++ [.boundary])) from rfl,
    matches_all_cons]
  simp only [matches_all_append, matches_boundary, show all [boundary] = boundary from rfl]
  constructor
  · rintro ⟨_, ⟨hi, rfl⟩, _, hdigits, hj, rfl⟩
    exact ⟨hi, hdigits, hj⟩
  · rintro ⟨hi, hdigits, hj⟩
    exact ⟨i, ⟨hi, rfl⟩, j, hdigits, hj, rfl⟩

theorem opens_dottedDigits : (all dottedDigits).Opens (isDecimalDigit · = true) :=
  ⟨Nat.one_pos, fun _ => id⟩

theorem closes_dottedDigits : (all dottedDigits).Closes (isDecimalDigit · = true) :=
  ⟨Nat.one_pos, fun _ => id⟩

/-- Before a digit, a word boundary is a place behind no word character. -/
theorem atBoundary_before {c : Char} (hc : isDecimalDigit c = true) {b : Option Char}
    {rest : List Char} :
    (Position.mk b (c :: rest)).atBoundary = true ↔ b.any isWordChar = false := by
  simp [atBoundary, isWordChar_of_isDecimalDigit hc]

/-- Behind a digit, a word boundary is a place before no word character. -/
theorem atBoundary_behind {c : Char} (hc : isDecimalDigit c = true) {rest : List Char} :
    (Position.mk (some c) rest).atBoundary = true ↔ rest.head?.any isWordChar = false := by
  simp [atBoundary, isWordChar_of_isDecimalDigit hc]

/-- A text is an IPv4 address if it consists of such groups and no word character is around it. -/
theorem matches_ipAddress_spells {b : Option Char} {text rest : List Char} :
    Matches ipAddress.pattern ⟨b, text ++ rest⟩ (behind b text rest) ↔
      (all dottedDigits).Spells text ∧ b.any isWordChar = false ∧
        rest.head?.any isWordChar = false := by
  rw [matches_ipAddress_iff]
  constructor
  · rintro ⟨hstart, hdigits, hend⟩
    obtain ⟨w, hw, hrest, -⟩ := hdigits.exists_spells
    obtain rfl : text = w := List.append_cancel_right hrest
    obtain ⟨c, t, rfl, hc⟩ := opens_dottedDigits.exists_cons hw
    refine ⟨hw, (atBoundary_before hc).1 hstart, ?_⟩
    obtain ⟨t', d, htext, hd⟩ := closes_dottedDigits.exists_concat hw
    rw [htext, behind_append] at hend
    exact (atBoundary_behind hd).1 hend
  · rintro ⟨htext, hbefore, hbehind⟩
    refine ⟨?_, htext.matches rfl b rest, ?_⟩
    · obtain ⟨c, t, rfl, hc⟩ := opens_dottedDigits.exists_cons htext
      exact (atBoundary_before hc).2 hbefore
    · obtain ⟨t, d, rfl, hd⟩ := closes_dottedDigits.exists_concat htext
      rw [behind_append]
      exact (atBoundary_behind hd).2 hbehind

/-- An address that is found stands between characters that belong to no word. -/
theorem exists_ipAddress (h : ipAddress.pattern.OccursIn cs) :
    ∃ pre w rest, cs = pre ++ (w ++ rest) ∧ (all dottedDigits).Spells w ∧
      pre.getLast?.any isWordChar = false ∧ rest.head?.any isWordChar = false := by
  obtain ⟨pre, post, j, rfl, hmatches⟩ := h
  obtain ⟨w, -, hpost, hj⟩ := hmatches.exists_spells
  obtain rfl : post = w ++ j.rest := hpost
  generalize j.rest = rest at hj hmatches ⊢
  rw [hj] at hmatches
  exact ⟨pre, w, rest, rfl, matches_ipAddress_spells.1 hmatches⟩

/-! ### Fences -/

/-- No word character stays directly before or behind a match. -/
structure Fenced (ps : List Piece) : Prop where
  before : ∀ front c text back, ps = front ++ kept c :: taken text :: back → isWordChar c = false
  behind : ∀ front text c back, ps = front ++ taken text :: kept c :: back → isWordChar c = false

/-- The addresses that are replaced have a word boundary on either side. -/
theorem fenced_ipAddress (h : Scans ipAddress.pattern (start cs) ps) : Fenced ps where
  before := by
    rintro front c text back rfl
    rw [List.append_cons] at h
    have hbefore := (matches_ipAddress_spells.1 h.matches_taken).2.1
    simpa using hbefore
  behind := by
    rintro front text c back rfl
    have hbehind := (matches_ipAddress_spells.1 h.matches_taken).2.2
    simpa using hbehind

/-- A run without a limit at the beginning of a pattern can begin earlier. -/
theorem spells_cons_run {p : Char → Bool} {least : Nat} {a : Pattern} {c : Char} {w : List Char}
    (hc : p c = true) (h : Spells (.seq (.run p least none) a) w) :
    Spells (.seq (.run p least none) a) (c :: w) := by
  obtain ⟨v, v', hv, hv', rfl⟩ := spells_seq.1 h
  obtain ⟨hall, hadmits⟩ := spells_run.1 hv
  refine spells_seq.2 ⟨c :: v, v', spells_run.2 ⟨List.forall_mem_cons.2 ⟨hc, hall⟩, ?_⟩, hv', rfl⟩
  exact ⟨Nat.le_succ_of_le hadmits.1, nofun⟩

theorem exhausts_emailAddress : emailAddress.pattern.Exhausts isWordChar :=
  ⟨rfl, rfl⟩

/-- No word character is left behind a mail address: its last part takes all of them. -/
theorem fenced_emailAddress (h : Scans emailAddress.pattern (start cs) ps) : Fenced ps where
  before := by
    rintro front c text back rfl
    -- With a word character before it, the address would have begun earlier.
    have hnone := h.not_matches
    rw [List.flatMap_cons, old_taken] at hnone
    apply Bool.eq_false_iff.2
    intro hc
    have htext : emailAddress.pattern.Spells text := h.spells_of_mem (by simp)
    have hlonger : emailAddress.pattern.Spells (c :: text) :=
      spells_cons_run (by simp [hc]) htext
    exact hnone _ (hlonger.matches rfl _ _)
  behind := by
    rintro front text c back rfl
    have hrest := exhausts_emailAddress.head?_ends h.head?_ends
    simpa using hrest

/-! ### IPv4 addresses in a rewritten text -/

/-- What is written has a character, and none of an IPv4 address. -/
def hasNoDigits (new : List Char) : Bool :=
  !new.isEmpty && new.all fun c => !(all dottedDigits).admits c

/-- An address is made of digits and dots, of which a text without digits has none. -/
theorem not_mem_of_hasNoDigits {new w : List Char} (hnew : hasNoDigits new = true)
    (hw : (all dottedDigits).Spells w) {c : Char} (hc : c ∈ new) : c ∉ w := by
  intro hmem
  have hnone := List.all_eq_true.1 (Bool.and_eq_true_iff.1 hnew).2 c hc
  rw [hw.admits c hmem] at hnone
  cases hnone

theorem exists_head_of_hasNoDigits {new : List Char} (hnew : hasNoDigits new = true) :
    ∃ d, new.head? = some d ∧ d ∈ new := by
  cases new with
  | nil => cases hnew
  | cons d more => exact ⟨d, rfl, List.mem_cons_self⟩

/-- Before a part that stays, both texts have the same character if the part before it stays. -/
theorem getLast?_old {before : List Piece} (h : ∀ front text, before ≠ front ++ [taken text]) :
    (before.flatMap old).getLast? = (before.flatMap (written substitute)).getLast? := by
  rcases List.eq_nil_or_concat before with rfl | ⟨front, piece, rfl⟩
  · rfl
  · cases piece with
    | kept d => simp
    | taken text => exact absurd (List.concat_eq_append ..) (h front text)

theorem head?_old {after : List Piece} (h : ∀ text back, after ≠ taken text :: back) :
    (after.flatMap old).head? = (after.flatMap (written substitute)).head? := by
  cases after with
  | nil => rfl
  | cons piece back =>
    cases piece with
    | kept d => rfl
    | taken text => exact absurd rfl (h text back)

/-- **No IPv4 address arises between fences.** -/
theorem not_occursIn_ipAddress_written (havoids : ipAddress.pattern.Avoids ps)
    (hfenced : Fenced ps) (hnew : ∀ text, taken text ∈ ps → hasNoDigits (substitute text) = true) :
    ¬ ipAddress.pattern.OccursIn (ps.flatMap (written substitute)) := by
  intro h
  obtain ⟨pre, w, rest, htext, hw, hbefore, hbehind⟩ := exists_ipAddress h
  obtain ⟨c, v, hcons, hc⟩ := opens_dottedDigits.exists_cons hw
  obtain ⟨u, e, hconcat, he⟩ := closes_dottedDigits.exists_concat hw
  -- The address consists of characters that stay.
  obtain ⟨before, after, hps, rfl, rfl⟩ : ∃ before after, ps = before ++ (w.map kept ++ after) ∧
      pre = before.flatMap (written substitute) ∧
      rest = after.flatMap (written substitute) := by
    rw [hcons] at htext hw ⊢
    refine exists_kept_word (fun text hmem hc => ?_) (fun text hmem => ?_) htext
    · exact not_mem_of_hasNoDigits (hnew text hmem) hw hc List.mem_cons_self
    · obtain ⟨d, hhead, hd⟩ := exists_head_of_hasNoDigits (hnew text hmem)
      have hnot := not_mem_of_hasNoDigits (hnew text hmem) hw hd
      exact ⟨d, hhead, fun h => hnot (List.mem_cons_of_mem _ h)⟩
  -- Around it, the old text has the same characters.
  have hbefore' : (before.flatMap old).getLast?.any isWordChar = false := by
    rw [getLast?_old, hbefore]
    rintro front text rfl
    have := hfenced.behind front text c (v.map kept ++ after) (by rw [hps, hcons]; simp)
    rw [isWordChar_of_isDecimalDigit hc] at this
    cases this
  have hbehind' : (after.flatMap old).head?.any isWordChar = false := by
    rw [head?_old, hbehind]
    rintro text back rfl
    have := hfenced.before (before ++ u.map kept) e text back (by rw [hps, hconcat]; simp)
    rw [isWordChar_of_isDecimalDigit he] at this
    cases this
  have hmatches := matches_ipAddress_spells.2 ⟨hw, hbefore', hbehind'⟩
  have hold : (v.map kept ++ after).flatMap old = v ++ after.flatMap old := by simp
  rw [hcons, List.cons_append, ← hold] at hmatches
  exact havoids before c _ _ (by rw [hps, hcons]; rfl) hmatches

/-! ### Rules -/

theorem shortest_ipAddress : 0 < ipAddress.pattern.shortest := by decide

theorem shortest_emailAddress : 0 < emailAddress.pattern.shortest := by decide

theorem hasNoDigits_ip : hasNoDigits "[IP]".toList = true := by decide

theorem hasNoDigits_email : hasNoDigits "[EMAIL]".toList = true := by decide

/-- No address is left once addresses are replaced. -/
theorem not_occursIn_ipAddress_self (cs : List Char) :
    ¬ ipAddress.pattern.OccursIn (ipAddress.apply cs) := by
  have hscans := scans_pieces shortest_ipAddress cs
  rw [Rule.apply_eq]
  exact not_occursIn_ipAddress_written hscans.avoids (fenced_ipAddress hscans)
    fun _ _ => hasNoDigits_ip

/-- Replacing mail addresses makes no address. -/
theorem not_occursIn_ipAddress_emailAddress (h : ¬ ipAddress.pattern.OccursIn cs) :
    ¬ ipAddress.pattern.OccursIn (emailAddress.apply cs) := by
  have hscans := scans_pieces shortest_emailAddress cs
  rw [Rule.apply_eq]
  exact not_occursIn_ipAddress_written (hscans.avoids_of_not_occursIn h)
    (fenced_emailAddress hscans) fun _ _ => hasNoDigits_email

end LiveFlags.Redaction
