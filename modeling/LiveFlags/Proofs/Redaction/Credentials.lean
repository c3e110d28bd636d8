import LiveFlags.Proofs.Redaction.Rewritten
import LiveFlags.Proofs.Text.CharClass

/-!
# User and password in a rewritten text

The rule for user and password leaves none behind. The rules after it could create them only by
writing characters of a user or a password where none stood, for what they write does not begin
with a character of a scheme and contains neither a colon nor an at sign
(`occursIn_credentials_written_iff`).
-/

namespace LiveFlags.Redaction

open Position Piece Pattern

variable {cs : List Char} {ps : List Piece} {substitute : List Char → List Char}

/-! ### The words -/

/-- A character of the user of a web address. -/
def isUserChar (c : Char) : Bool :=
  !(c == '/' || c == ':' || c == '@' || isBlank c)

/-- A character of the password. -/
def isPasswordChar (c : Char) : Bool :=
  !(c == '/' || c == '@' || isBlank c)

/-- The scheme of a web address. -/
def scheme : Pattern :=
  .seq (anyCase "http") (.run (sameLetter 's') 0 (some 1))

/-- A character of a scheme behind the first one. -/
def isSchemeTail (c : Char) : Bool :=
  sameLetter 't' c || sameLetter 'p' c || sameLetter 's' c

/-- A text that is not empty, of characters of a class. -/
def IsRun (p : Char → Bool) (w : List Char) : Prop :=
  w ≠ [] ∧ ∀ c ∈ w, p c = true

theorem spells_run_iff {p : Char → Bool} {w : List Char} :
    Spells (.run p 1 none) w ↔ IsRun p w := by
  rw [spells_run, IsRun, and_comm]
  refine and_congr_left' ?_
  simp [Admits, Nat.one_le_iff_ne_zero]

/-- The text of a scheme, a user and a password. -/
def login (s u v : List Char) : List Char :=
  s ++ ("://".toList ++ (u ++ ':' :: (v ++ ['@'])))

theorem count_login (c : Char) (s u v : List Char) :
    (login s u v).count c =
      s.count c + "://".toList.count c + u.count c + [':'].count c + v.count c + ['@'].count c := by
  rw [show login s u v = s ++ ("://".toList ++ (u ++ ([':'] ++ (v ++ ['@'])))) from rfl]
  simp only [List.count_append, Nat.add_assoc]

/-- User and password stand between the scheme of a web address and an at sign. -/
theorem spells_credentials_iff {w : List Char} :
    credentials.pattern.Spells w ↔
      ∃ s u v, scheme.Spells s ∧ IsRun isUserChar u ∧ IsRun isPasswordChar v ∧
        w = login s u v := by
  have hone {d : Char} {w : List Char} : Spells (.one (· == d)) w ↔ w = [d] := by
    simp [spells_one]
  rw [show credentials.pattern = .seq (anyCase "http") (.seq (.run (sameLetter 's') 0 (some 1))
    (.seq (exactly "://") (.seq (.run isUserChar 1 none) (.seq (.one (· == ':'))
      (.seq (.run isPasswordChar 1 none) (.one (· == '@'))))))) from rfl, scheme]
  simp only [spells_seq, spells_exactly, spells_run_iff, hone, login]
  constructor
  · rintro ⟨x, _, hx, ⟨y, _, hy, ⟨_, _, rfl, ⟨u, _, hu, ⟨_, _, rfl, ⟨v, _, hv, rfl, rfl⟩, rfl⟩, rfl⟩,
      rfl⟩, rfl⟩, rfl⟩
    exact ⟨x ++ y, u, v, ⟨x, y, hx, hy, rfl⟩, hu, hv, by simp⟩
  · rintro ⟨_, u, v, ⟨x, y, hx, hy, rfl⟩, hu, hv, rfl⟩
    exact ⟨x, _, hx, ⟨y, _, hy, ⟨_, _, rfl, ⟨u, _, hu, ⟨_, _, rfl, ⟨v, _, hv, rfl, rfl⟩, rfl⟩, rfl⟩,
      rfl⟩, rfl⟩, by simp⟩

theorem not_isSchemeTail {c : Char} (h : sameLetter 'h' c = true) : isSchemeTail c = false := by
  have hlower : c.toLower = 'h' := by simpa [sameLetter] using h
  have hlong : c ≠ 'ſ' := by
    rintro rfl
    exact absurd hlower (by decide)
  simp [isSchemeTail, sameLetter, hlower, hlong]

/-- A scheme begins with its only `h`. -/
theorem exists_scheme {s : List Char} (h : scheme.Spells s) :
    ∃ c t, s = c :: t ∧ sameLetter 'h' c = true ∧ ∀ d ∈ t, isSchemeTail d = true := by
  rw [show scheme = .seq (.seq (.one (sameLetter 'h')) (.seq (.one (sameLetter 't'))
    (.seq (.one (sameLetter 't')) (.one (sameLetter 'p'))))) (.run (sameLetter 's') 0 (some 1))
    from rfl] at h
  obtain ⟨v, r, hv, hr, rfl⟩ := spells_seq.1 h
  obtain ⟨x, y, hx, hy, rfl⟩ := spells_seq.1 hv
  obtain ⟨c, hc, rfl⟩ := spells_one.1 hx
  refine ⟨c, y ++ r, rfl, hc, fun d hd => ?_⟩
  rcases List.mem_append.1 hd with hd | hd
  · have hletter : (sameLetter 't' d || (sameLetter 't' d || sameLetter 'p' d)) = true :=
      hy.admits d hd
    simp only [Bool.or_eq_true] at hletter
    rcases hletter with hletter | hletter | hletter <;> simp [isSchemeTail, hletter]
  · have hletter : sameLetter 's' d = true := hr.admits d hd
    simp [isSchemeTail, hletter]

/-- A character that is in no scheme. -/
theorem not_mem_scheme {s : List Char} (hs : scheme.Spells s) {c : Char}
    (hfirst : sameLetter 'h' c = false) (htail : isSchemeTail c = false) : c ∉ s := by
  obtain ⟨d, t, rfl, hd, ht⟩ := exists_scheme hs
  intro hmem
  rcases List.mem_cons.1 hmem with rfl | hmem
  · rw [hd] at hfirst
    cases hfirst
  · rw [ht c hmem] at htail
    cases htail

/-- A password may have all characters of a user name, and the colon too. -/
theorem isPasswordChar_of_isUserChar {c : Char} (h : isUserChar c = true) :
    isPasswordChar c = true := by
  simp only [isUserChar, isPasswordChar, Bool.not_eq_true', Bool.or_eq_false_iff] at h ⊢
  exact ⟨⟨h.1.1.1, h.1.2⟩, h.2⟩

/-! ### The parts of a login -/

/-- The parts with a scheme that stays, the parts of a user, a colon that stays, the parts of a
password and an at sign that stays. -/
def loginPieces (s : List Char) (us vs : List Piece) : List Piece :=
  (s ++ "://".toList).map kept ++ (us ++ kept ':' :: (vs ++ [kept '@']))

theorem flatMap_written_loginPieces (s : List Char) (us vs : List Piece) :
    (loginPieces s us vs).flatMap (written substitute) =
      login s (us.flatMap (written substitute)) (vs.flatMap (written substitute)) := by
  simp [loginPieces, login, List.flatMap_map]

theorem flatMap_old_loginPieces (s : List Char) (us vs : List Piece) :
    (loginPieces s us vs).flatMap old = login s (us.flatMap old) (vs.flatMap old) := by
  simp [loginPieces, login, List.flatMap_map]

/-- What is written neither begins with a character of a scheme or of the slashes behind it nor has
the first character of a scheme, a colon or an at sign. -/
def isForeign (new : List Char) : Bool :=
  new.head?.any (fun d => !(isSchemeTail d || d == '/')) &&
    new.all fun c => !(sameLetter 'h' c || c == ':' || c == '@')

/-- What the rules write has no beginning of a scheme, no colon and no at sign. -/
theorem not_mem_of_isForeign {new : List Char} (hnew : isForeign new = true) {c : Char}
    (hc : sameLetter 'h' c = true ∨ c = ':' ∨ c = '@') : c ∉ new := by
  intro hmem
  have hnone := List.all_eq_true.1 (Bool.and_eq_true_iff.1 hnew).2 c hmem
  rcases hc with hc | rfl | rfl <;> simp_all

theorem exists_head_of_isForeign {new : List Char} (hnew : isForeign new = true) :
    ∃ d, new.head? = some d ∧ isSchemeTail d = false ∧ d ≠ '/' ∧ d ≠ ':' := by
  cases new with
  | nil => cases hnew
  | cons d more =>
    have hcolon : ':' ∉ d :: more := not_mem_of_isForeign hnew (.inr (.inl rfl))
    have hd := (Bool.and_eq_true_iff.1 hnew).1
    simp only [List.head?_cons, Option.any_some, Bool.not_eq_true', Bool.or_eq_false_iff,
      beq_eq_false_iff_ne] at hd
    refine ⟨d, rfl, hd.1, hd.2, ?_⟩
    rintro rfl
    exact hcolon List.mem_cons_self

/-- **Where a login stands in the new text, its scheme, its colon and its at sign stayed.** -/
theorem exists_loginPieces (hnew : ∀ text, taken text ∈ ps → isForeign (substitute text) = true)
    {pre s u v post : List Char} (hs : scheme.Spells s)
    (h : ps.flatMap (written substitute) = pre ++ (login s u v ++ post)) :
    ∃ before us vs after, ps = before ++ (loginPieces s us vs ++ after) ∧
      u = us.flatMap (written substitute) ∧ v = vs.flatMap (written substitute) := by
  obtain ⟨c, t, rfl, hc, ht⟩ := exists_scheme hs
  have hword : ps.flatMap (written substitute) =
      pre ++ (c :: (t ++ "://".toList) ++ (u ++ ':' :: (v ++ '@' :: post))) := by
    rw [h]
    simp [login]
  -- No replacement has the beginning of a scheme, so all of the scheme was kept.
  obtain ⟨before, behind, rfl, -, hbehind⟩ := exists_kept_word
    (fun text htext => not_mem_of_isForeign (hnew text htext) (.inl hc))
    (fun text htext => by
      obtain ⟨d, hhead, htail, hslash, hcolon⟩ := exists_head_of_isForeign (hnew text htext)
      refine ⟨d, hhead, fun hmem => ?_⟩
      rcases List.mem_append.1 hmem with hmem | hmem
      · rw [ht d hmem] at htail
        cases htail
      · simp_all) hword
  have hbehindNew : ∀ text, taken text ∈ behind → isForeign (substitute text) = true :=
    fun text htext => hnew text (by simp [htext])
  -- Nor has any a colon or an at sign.
  obtain ⟨us, rest, rfl, rfl, hrest⟩ := exists_kept
    (fun text htext => not_mem_of_isForeign (hbehindNew text htext) (.inr (.inl rfl)))
    hbehind.symm
  have hrestNew : ∀ text, taken text ∈ rest → isForeign (substitute text) = true :=
    fun text htext => hbehindNew text (by simp [htext])
  obtain ⟨vs, after, rfl, rfl, -⟩ := exists_kept
    (fun text htext => not_mem_of_isForeign (hrestNew text htext) (.inr (.inr rfl)))
    hrest.symm
  exact ⟨before, us, vs, after, by simp [loginPieces], rfl, rfl⟩

/-! ### Rules that do not create a login -/

theorem flatMap_old_ne_nil {us : List Piece} (hus : us ≠ [])
    (hold : ∀ text, taken text ∈ us → text ≠ []) : us.flatMap old ≠ [] := by
  cases us with
  | nil => exact absurd rfl hus
  | cons piece us =>
    cases piece with
    | kept c => simp
    | taken text => simp [hold text List.mem_cons_self]

/-- What is written has white space, or what it replaces fits into a user and a password. -/
def FitsLogin (text new : List Char) : Prop :=
  text ≠ [] ∧ ((∃ c ∈ new, isBlank c = true) ∨ ∀ c ∈ text, isUserChar c = true)

/-- Where only text that fits was replaced, the new text has a run only where the old text had. -/
theorem isRun_old {p : Char → Bool} (hblank : ∀ c, isBlank c = true → p c = false)
    (huser : ∀ c, isUserChar c = true → p c = true) {us : List Piece}
    (hfits : ∀ text, taken text ∈ us → FitsLogin text (substitute text))
    (h : IsRun p (us.flatMap (written substitute))) : IsRun p (us.flatMap old) := by
  constructor
  · refine flatMap_old_ne_nil ?_ fun text htext => (hfits text htext).1
    rintro rfl
    exact h.1 rfl
  · refine forall_mem_old h.2 fun text htext hnew => ?_
    rcases (hfits text htext).2 with ⟨c, hc, hc'⟩ | huserText
    · have := hnew c hc
      rw [hblank c hc'] at this
      cases this
    · exact fun c hc => huser c (huserText c hc)

/-- **A login does not arise from text that fits into one.** -/
theorem not_occursIn_credentials_written
    (hnew : ∀ text, taken text ∈ ps → isForeign (substitute text) = true)
    (hfits : ∀ text, taken text ∈ ps → FitsLogin text (substitute text))
    (hold : ¬ credentials.pattern.OccursIn (ps.flatMap old)) :
    ¬ credentials.pattern.OccursIn (ps.flatMap (written substitute)) := by
  intro h
  obtain ⟨pre, w, post, htext, hw⟩ := h.exists_spells
  obtain ⟨s, u, v, hs, hu, hv, rfl⟩ := spells_credentials_iff.1 hw
  obtain ⟨before, us, vs, after, rfl, rfl, rfl⟩ := exists_loginPieces hnew hs htext
  have hu' : IsRun isUserChar (us.flatMap old) :=
    isRun_old (by simp +contextual [isUserChar]) (fun _ => id)
      (fun text htext => hfits text (by simp [loginPieces, htext])) hu
  have hv' : IsRun isPasswordChar (vs.flatMap old) :=
    isRun_old (by simp +contextual [isPasswordChar]) (fun _ => isPasswordChar_of_isUserChar)
      (fun text htext => hfits text (by simp [loginPieces, htext])) hv
  apply hold
  rw [List.flatMap_append, List.flatMap_append, flatMap_old_loginPieces]
  exact (spells_credentials_iff.2 ⟨s, _, _, hs, hu', hv', rfl⟩).occursIn rfl _ _

/-! ### A rule that creates a login -/

/-- A character of a class stays there, or something is replaced. -/
def fits (p : Char → Bool) : Piece → Bool
  | kept c => p c
  | taken _ => true

/-- Among the parts are those of a login if any match counts as characters of it. -/
def HasLogin (ps : List Piece) : Prop :=
  ∃ before s us vs after, ps = before ++ (loginPieces s us vs ++ after) ∧ scheme.Spells s ∧
    (us ≠ [] ∧ ∀ piece ∈ us, fits isUserChar piece = true) ∧
    (vs ≠ [] ∧ ∀ piece ∈ vs, fits isPasswordChar piece = true)

/-- The new text is a run just if what was kept fits, where all that is written does. -/
theorem isRun_written_iff {p : Char → Bool} {us : List Piece}
    (hnew : ∀ text, taken text ∈ us → IsRun p (substitute text)) :
    IsRun p (us.flatMap (written substitute)) ↔
      us ≠ [] ∧ ∀ piece ∈ us, fits p piece = true := by
  constructor
  · rintro ⟨hne, hall⟩
    constructor
    · rintro rfl
      exact hne rfl
    · intro piece hpiece
      cases piece with
      | kept c => exact hall c (List.mem_flatMap.2 ⟨_, hpiece, List.mem_singleton_self c⟩)
      | taken text => rfl
  · rintro ⟨hne, hfits⟩
    constructor
    · obtain ⟨piece, us, rfl⟩ := List.exists_cons_of_ne_nil hne
      cases piece with
      | kept c => simp
      | taken text => simp [(hnew text List.mem_cons_self).1]
    · intro c hc
      obtain ⟨piece, hpiece, hc⟩ := List.mem_flatMap.1 hc
      cases piece with
      | kept d =>
        obtain rfl : c = d := List.mem_singleton.1 hc
        exact hfits _ hpiece
      | taken text => exact (hnew text hpiece).2 c hc

theorem isRun_old_iff {p : Char → Bool} {us : List Piece}
    (hold : ∀ text, taken text ∈ us → IsRun p text) :
    IsRun p (us.flatMap old) ↔ us ≠ [] ∧ ∀ piece ∈ us, fits p piece = true := by
  rw [← written_id]
  exact isRun_written_iff hold

/-- **If what is written is part of a user, a login arises exactly if the pieces form one.** -/
theorem occursIn_credentials_written_iff
    (hnew : ∀ text, taken text ∈ ps → isForeign (substitute text) = true)
    (huser : ∀ text, taken text ∈ ps → IsRun isUserChar (substitute text)) :
    credentials.pattern.OccursIn (ps.flatMap (written substitute)) ↔ HasLogin ps := by
  have hpassword (text : List Char) (htext : taken text ∈ ps) :
      IsRun isPasswordChar (substitute text) :=
    (huser text htext).imp id fun h c hc => isPasswordChar_of_isUserChar (h c hc)
  constructor
  · intro h
    obtain ⟨pre, w, post, htext, hw⟩ := h.exists_spells
    obtain ⟨s, u, v, hs, hu, hv, rfl⟩ := spells_credentials_iff.1 hw
    obtain ⟨before, us, vs, after, rfl, rfl, rfl⟩ := exists_loginPieces hnew hs htext
    refine ⟨before, s, us, vs, after, rfl, hs, ?_, ?_⟩
    · exact (isRun_written_iff fun text htext => huser text (by simp [loginPieces, htext])).1 hu
    · exact (isRun_written_iff fun text htext =>
        hpassword text (by simp [loginPieces, htext])).1 hv
  · rintro ⟨before, s, us, vs, after, rfl, hs, hus, hvs⟩
    have hu := (isRun_written_iff fun text htext =>
      huser text (by simp [loginPieces, htext])).2 hus
    have hv := (isRun_written_iff fun text htext =>
      hpassword text (by simp [loginPieces, htext])).2 hvs
    rw [List.flatMap_append, List.flatMap_append, flatMap_written_loginPieces]
    exact (spells_credentials_iff.2 ⟨s, _, _, hs, hu, hv, rfl⟩).occursIn rfl _ _

/-- Such parts have a match among them if no login stood there before. -/
theorem HasLogin.exists_taken (h : HasLogin ps)
    (hold : ¬ credentials.pattern.OccursIn (ps.flatMap old)) :
    ∃ before s us vs after text, ps = before ++ (loginPieces s us vs ++ after) ∧
      taken text ∈ us ++ vs := by
  obtain ⟨before, s, us, vs, after, rfl, hs, hus, hvs⟩ := h
  apply Classical.byContradiction
  intro hnone
  have hkept {text : List Char} (htext : taken text ∈ us ++ vs) : False :=
    hnone ⟨before, s, us, vs, after, text, rfl, htext⟩
  have hu : IsRun isUserChar (us.flatMap old) :=
    (isRun_old_iff fun text htext => (hkept (List.mem_append_left _ htext)).elim).2 hus
  have hv : IsRun isPasswordChar (vs.flatMap old) :=
    (isRun_old_iff fun text htext => (hkept (List.mem_append_right _ htext)).elim).2 hvs
  apply hold
  rw [List.flatMap_append, List.flatMap_append, flatMap_old_loginPieces]
  exact (spells_credentials_iff.2 ⟨s, _, _, hs, hu, hv, rfl⟩).occursIn rfl _ _

/-! ### The rule itself -/

theorem shortest_credentials : 0 < credentials.pattern.shortest := by decide

/-- The scheme stays, and user and password are replaced. -/
theorem substitute_login {s u v : List Char} (hs : scheme.Spells s) :
    credentials.substitute (login s u v) = s ++ "://[CREDENTIALS]@".toList := by
  have hslash : '/' ∉ s := not_mem_scheme hs (by decide) (by decide)
  have htake : (login s u v).takeWhile (· != '/') = s ++ [':'] := by
    have hall : ∀ c ∈ s ++ [':'], (c != '/') = true := by
      intro c hc
      rw [bne_iff_ne]
      rintro rfl
      simp [hslash] at hc
    rw [show login s u v = (s ++ [':']) ++ '/' :: '/' :: (u ++ ':' :: (v ++ ['@'])) by simp [login],
      List.takeWhile_append_of_pos hall]
    simp
  show (login s u v).takeWhile (· != '/') ++ "//[CREDENTIALS]@".toList = _
  rw [htake]
  simp

/-- The first occurrence of a character divides a text in one way. -/
theorem eq_of_append_cons {x x' y y' : List Char} {d : Char} (hx : d ∉ x) (hx' : d ∉ x')
    (h : x ++ d :: y = x' ++ d :: y') : x = x' := by
  rcases List.append_eq_append_iff.1 h with ⟨z, rfl, hz⟩ | ⟨z, rfl, hz⟩
  all_goals
    cases z with
    | nil => simp
    | cons e z =>
      obtain ⟨rfl, -⟩ := List.cons.inj hz
      simp at hx hx'

theorem login_eq_concat (s u v : List Char) :
    login s u v = (s ++ "://".toList ++ (u ++ ':' :: v)) ++ ['@'] := by
  simp [login]

/-- The at sign that ends a user and a password is the only one in them. -/
theorem at_not_mem {s u v : List Char} (hs : scheme.Spells s) (hu : IsRun isUserChar u)
    (hv : IsRun isPasswordChar v) : '@' ∉ s ++ "://".toList ++ (u ++ ':' :: v) := by
  have hscheme : '@' ∉ s := not_mem_scheme hs (by decide) (by decide)
  have huser : '@' ∉ u := fun h => absurd (hu.2 _ h) (by decide)
  have hpassword : '@' ∉ v := fun h => absurd (hv.2 _ h) (by decide)
  simp [hscheme, huser, hpassword]

theorem slash_not_mem {u v : List Char} (hu : IsRun isUserChar u) (hv : IsRun isPasswordChar v) :
    '/' ∉ u ++ ':' :: v := by
  have huser : '/' ∉ u := fun h => absurd (hu.2 _ h) (by decide)
  have hpassword : '/' ∉ v := fun h => absurd (hv.2 _ h) (by decide)
  simp [huser, hpassword]

/-- A login does not end in what is written for another one. -/
theorem login_not_ends {s s' u v x y post rest : List Char} (hs : scheme.Spells s)
    (hs' : scheme.Spells s') (hu : IsRun isUserChar u) (hv : IsRun isPasswordChar v)
    (hlogin : login s u v = x ++ y) (hy : y ≠ []) :
    y ++ post ≠ (s' ++ "://[CREDENTIALS]@".toList) ++ rest := by
  intro h
  -- Up to its at sign, the end of the login is what is written up to the at sign.
  rcases List.eq_nil_or_concat y with rfl | ⟨y, e, rfl⟩
  · exact hy rfl
  rw [List.concat_eq_append] at hlogin h
  obtain ⟨hbody, rfl⟩ : s ++ "://".toList ++ (u ++ ':' :: v) = x ++ y ∧ '@' = e := by
    rw [login_eq_concat, ← List.append_assoc x] at hlogin
    simpa using List.append_inj' hlogin rfl
  have hend : y = s' ++ "://[CREDENTIALS]".toList := by
    have hnot := at_not_mem hs hu hv
    rw [hbody, List.mem_append, not_or] at hnot
    have hnot' : '@' ∉ s' := not_mem_scheme hs' (by decide) (by decide)
    have hsplit : y ++ '@' :: post = (s' ++ "://[CREDENTIALS]".toList) ++ '@' :: rest := by
      simpa using h
    exact eq_of_append_cons hnot.2 (by simp [hnot']) hsplit
  -- Behind the slashes stands a colon in the login, but none in what is written.
  have hslashes : (s ++ "://".toList) ++ ((u ++ ':' :: v) ++ []) =
      (x ++ s' ++ ":/".toList) ++ '/' :: "[CREDENTIALS]".toList := by
    rw [List.append_nil, hbody, hend]
    simp
  rcases left_or_right hslashes (slash_not_mem hu hv) with ⟨z, hz⟩ | ⟨z, -, hz⟩
  · have := congrArg List.length hslashes
    rw [hz] at this
    simp at this
  · have : ':' ∈ "[CREDENTIALS]".toList := by
      rw [← hz]
      simp
    exact absurd this (by decide)

/-- Nor does it begin there: the first character of a scheme is not written again behind it, and
from there on the login would end in what is written. -/
theorem login_not_begins {c : Char} {t s' u v x y post rest : List Char}
    (hs : scheme.Spells (c :: t)) (hs' : scheme.Spells s') (hu : IsRun isUserChar u)
    (hv : IsRun isPasswordChar v) (hwritten : s' ++ "://[CREDENTIALS]@".toList = x ++ c :: y) :
    login t u v ++ post ≠ y ++ rest := by
  intro h
  -- The scheme begins with its only letter of that kind, so nothing stands before it.
  cases x with
  | nil =>
    have hwhole : login (c :: t) u v ++ post = ([] ++ c :: y) ++ rest := congrArg (c :: ·) h
    rw [← hwritten] at hwhole
    exact login_not_ends hs hs' hu hv (x := []) rfl (List.cons_ne_nil _ _) hwhole
  | cons e x =>
    obtain ⟨d, t', rfl, -, ht'⟩ := exists_scheme hs'
    obtain ⟨_, _, hcons, hc, -⟩ := exists_scheme hs
    obtain ⟨rfl, rfl⟩ := List.cons.inj hcons
    have hmem : c ∈ t' ++ "://[CREDENTIALS]@".toList := by
      rw [List.cons_append] at hwritten
      rw [(List.cons.inj hwritten).2]
      simp
    rcases List.mem_append.1 hmem with hmem | hmem
    · have := not_isSchemeTail hc
      rw [ht' c hmem] at this
      cases this
    · have hnone : ("://[CREDENTIALS]@".toList.all fun d => !sameLetter 'h' d) = true := by decide
      have := List.all_eq_true.1 hnone c hmem
      rw [hc] at this
      cases this

/-- **No user and password are left by the rule for them.** -/
theorem not_occursIn_credentials_self (cs : List Char) :
    ¬ credentials.pattern.OccursIn (credentials.apply cs) := by
  have hscans := scans_pieces shortest_credentials cs
  have hnew : ∀ text, taken text ∈ credentials.pattern.pieces cs →
      ∃ s, scheme.Spells s ∧ credentials.substitute text = s ++ "://[CREDENTIALS]@".toList := by
    intro text htext
    obtain ⟨s, u, v, hs, -, -, rfl⟩ := spells_credentials_iff.1 (hscans.spells_of_mem htext)
    exact ⟨s, hs, substitute_login hs⟩
  rw [Rule.apply_eq]
  intro h
  obtain ⟨pre, w, post, htext, hw⟩ := h.exists_spells
  obtain ⟨s, u, v, hs, hu, hv, rfl⟩ := spells_credentials_iff.1 hw
  obtain ⟨c, t, rfl, -⟩ := exists_scheme hs
  have hfirst : (credentials.pattern.pieces cs).flatMap (written credentials.substitute) =
      pre ++ c :: (login t u v ++ post) := htext
  -- What is left would begin with a character that stayed or inside a replacement.
  rcases kept_or_taken hfirst with
    ⟨before, after, hps, -, hpost⟩ | ⟨before, text, after, x, y, hps, hwritten, hpost⟩
  · rcases exists_kept_prefix hpost.symm with
      ⟨later, rfl, -⟩ | ⟨ks, y, text, after, hy, hne, rfl, hrest⟩
    · have hold : ((login t u v).map kept ++ later).flatMap old =
          login t u v ++ later.flatMap old := by simp
      exact hscans.avoids.not_spells rfl hps hold hw
    · obtain ⟨s', hs', hsubstitute⟩ := hnew text (by simp [hps])
      rw [hsubstitute] at hrest
      exact login_not_ends hs hs' hu hv (x := c :: ks) (congrArg (c :: ·) hy) hne hrest
  · obtain ⟨s', hs', hsubstitute⟩ := hnew text (by simp [hps])
    rw [hsubstitute] at hwritten
    exact login_not_begins hs hs' hu hv hwritten hpost

end LiveFlags.Redaction
