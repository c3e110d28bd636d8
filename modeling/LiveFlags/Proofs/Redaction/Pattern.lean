import LiveFlags.Redaction.Pattern

/-!
# What a pattern matches

The search for matches is exact: `ends` lists the ends of all matches from a position, and of no
others (`mem_ends_iff`).

`Spells` says which texts a pattern matches when word boundaries do not count. What was matched is
such a text (`Matches.exists_spells`), and a pattern without boundaries matches it wherever it
stands (`Spells.matches`). The characters of these texts, their length, how they begin and how they
end can be read off the pattern.
-/

namespace LiveFlags.Redaction

/-- The place behind a text. -/
def Position.behind (before : Option Char) (text rest : List Char) : Position :=
  ⟨text.getLast? <|> before, rest⟩

namespace Position

@[simp]
theorem behind_nil (before : Option Char) (rest : List Char) :
    behind before [] rest = ⟨before, rest⟩ :=
  rfl

@[simp]
theorem rest_behind (before : Option Char) (text rest : List Char) :
    (behind before text rest).rest = rest :=
  rfl

theorem behind_append (before : Option Char) (text more rest : List Char) :
    behind before (text ++ more) rest = behind (behind before text rest).before more rest := by
  simp [behind, List.getLast?_append, Option.or_assoc]

theorem behind_cons (before : Option Char) (c : Char) (text rest : List Char) :
    behind before (c :: text) rest = behind (some c) text rest :=
  behind_append before [c] text rest

end Position

open Position

namespace Pattern

/-! ### Words -/

/-- The pattern matches this text if word boundaries do not count. -/
inductive Spells : Pattern → List Char → Prop where
  | one {p : Char → Bool} {c : Char} (holds : p c = true) : Spells (.one p) [c]
  | boundary : Spells .boundary []
  | seq {a b : Pattern} {v w : List Char} (first : Spells a v) (second : Spells b w) :
    Spells (.seq a b) (v ++ w)
  | run {p : Char → Bool} {least : Nat} {most : Option Nat} {w : List Char}
    (holds : ∀ c ∈ w, p c = true) (admitted : Admits least most w.length) :
    Spells (.run p least most) w
  | starNone {a : Pattern} : Spells (.star a) []
  | starMore {a : Pattern} {v w : List Char} (first : Spells a v) (more : Spells (.star a) w) :
    Spells (.star a) (v ++ w)

/-- There is no word boundary in the pattern. -/
def isFree : Pattern → Bool
  | .one _ | .run _ _ _ => true
  | .boundary => false
  | .seq a b => a.isFree && b.isFree
  | .star a => a.isFree

/-- What was matched is a word of the pattern. -/
theorem Matches.exists_spells {p : Pattern} {i j : Position} (h : Matches p i j) :
    ∃ w, p.Spells w ∧ i.rest = w ++ j.rest ∧ j = behind i.before w j.rest := by
  induction h with
  | one hc => exact ⟨[_], .one hc, rfl, rfl⟩
  | boundary => exact ⟨[], .boundary, rfl, rfl⟩
  | run hall hlength => exact ⟨_, .run hall hlength, rfl, rfl⟩
  | starNone => exact ⟨[], .starNone, rfl, rfl⟩
  | @seq a b i j k _ _ iha ihb =>
    obtain ⟨v, hv, hiv, hjv⟩ := iha
    obtain ⟨w, hw, hjw, hkw⟩ := ihb
    refine ⟨v ++ w, .seq hv hw, by rw [hiv, hjw, List.append_assoc], ?_⟩
    rw [hkw, hjv, behind_append]
    rfl
  | @starMore a i j k _ _ iha ihb =>
    obtain ⟨v, hv, hiv, hjv⟩ := iha
    obtain ⟨w, hw, hjw, hkw⟩ := ihb
    refine ⟨v ++ w, .starMore hv hw, by rw [hiv, hjw, List.append_assoc], ?_⟩
    rw [hkw, hjv, behind_append]
    rfl

/-- Without word boundaries it does not matter where a text stands. -/
theorem Spells.matches {p : Pattern} {w : List Char} (h : p.Spells w) (hfree : p.isFree = true)
    (b : Option Char) (cs : List Char) : Matches p ⟨b, w ++ cs⟩ (behind b w cs) := by
  induction h generalizing b cs with
  | one hc => exact .one hc
  | boundary => cases hfree
  | run hall hlength => exact .run hall hlength
  | starNone => exact .starNone
  | seq _ _ iha ihb =>
    obtain ⟨hfreeA, hfreeB⟩ := Bool.and_eq_true_iff.1 hfree
    rw [List.append_assoc, behind_append]
    exact .seq (iha hfreeA b _) (ihb hfreeB _ cs)
  | starMore _ _ iha ihb =>
    rw [List.append_assoc, behind_append]
    exact .starMore (iha hfree b _) (ihb hfree _ cs)

/-! ### The search -/

/-- One more character may be taken if the most is not yet reached, and one less has to follow. -/
theorem admits_cons {least n : Nat} {most : Option Nat} :
    Admits least most (n + 1) ↔
      most ≠ some 0 ∧ Admits (least - 1) (most.map (· - 1)) n := by
  unfold Admits
  cases most with
  | none => simp
  | some most =>
    simp only [Option.map_some, Option.mem_some_iff, ne_eq, Option.some.injEq, forall_eq']
    omega

/-- A run of characters leads from a place to a position. -/
def RunsTo (p : Char → Bool) (least : Nat) (most : Option Nat) (b : Option Char) (cs : List Char)
    (j : Position) : Prop :=
  ∃ taken rest, cs = taken ++ rest ∧ (∀ c ∈ taken, p c = true) ∧
    Admits least most taken.length ∧ j = behind b taken rest

theorem matches_run {p : Char → Bool} {least : Nat} {most : Option Nat} {i j : Position} :
    Matches (.run p least most) i j ↔ RunsTo p least most i.before i.rest j := by
  constructor
  · intro h
    cases h with
    | run hall hadmits => exact ⟨_, _, rfl, hall, hadmits, rfl⟩
  · rintro ⟨taken, rest, hrest, hall, hadmits, rfl⟩
    obtain ⟨b, cs⟩ := i
    obtain rfl : cs = taken ++ rest := hrest
    exact .run hall hadmits

/-- A run is empty or begins with the next character. -/
theorem runsTo_cons {p : Char → Bool} {least : Nat} {most : Option Nat} {b : Option Char} {c : Char}
    {cs : List Char} {j : Position} :
    RunsTo p least most b (c :: cs) j ↔
      (least = 0 ∧ j = ⟨b, c :: cs⟩) ∨ (most ≠ some 0 ∧ p c = true) ∧
        RunsTo p (least - 1) (most.map (· - 1)) (some c) cs j := by
  constructor
  · rintro ⟨taken, rest, hsplit, hall, hadmits, rfl⟩
    cases taken with
    | nil =>
      obtain rfl : c :: cs = rest := hsplit
      exact .inl ⟨Nat.le_zero.1 hadmits.1, rfl⟩
    | cons d taken =>
      obtain ⟨rfl, rfl⟩ := List.cons.inj hsplit
      obtain ⟨hc, hall⟩ := List.forall_mem_cons.1 hall
      obtain ⟨hmost, hadmits⟩ := admits_cons.1 hadmits
      exact .inr ⟨⟨hmost, hc⟩, taken, rest, rfl, hall, hadmits, behind_cons ..⟩
  · rintro (⟨rfl, rfl⟩ | ⟨⟨hmost, hc⟩, taken, rest, rfl, hall, hadmits, rfl⟩)
    · exact ⟨[], c :: cs, rfl, List.forall_mem_nil _,
        ⟨Nat.le_refl 0, fun _ _ => Nat.zero_le _⟩, rfl⟩
    · exact ⟨c :: taken, rest, rfl, List.forall_mem_cons.2 ⟨hc, hall⟩,
        admits_cons.2 ⟨hmost, hadmits⟩, (behind_cons ..).symm⟩

theorem runsTo_nil {p : Char → Bool} {least : Nat} {most : Option Nat} {b : Option Char}
    {j : Position} : RunsTo p least most b [] j ↔ least = 0 ∧ j = ⟨b, []⟩ := by
  constructor
  · rintro ⟨taken, rest, hsplit, -, hadmits, rfl⟩
    obtain ⟨rfl, rfl⟩ := List.append_eq_nil_iff.1 hsplit.symm
    exact ⟨Nat.le_zero.1 hadmits.1, rfl⟩
  · rintro ⟨rfl, rfl⟩
    exact ⟨[], [], rfl, List.forall_mem_nil _, ⟨Nat.le_refl 0, fun _ _ => Nat.zero_le _⟩, rfl⟩

/-- The search finds just the ends of a run. -/
theorem mem_runEnds {p : Char → Bool} {least : Nat} {most : Option Nat} {b : Option Char}
    {cs : List Char} {found : List Position} {j : Position} :
    j ∈ runEnds p least most b cs found ↔ j ∈ found ∨ RunsTo p least most b cs j := by
  have hnothing (b : Option Char) (cs : List Char) (least : Nat) (found : List Position) :
      j ∈ (if least = 0 then ⟨b, cs⟩ :: found else found) ↔
        j ∈ found ∨ (least = 0 ∧ j = ⟨b, cs⟩) := by
    by_cases hleast : least = 0 <;> simp [hleast, or_comm]
  induction cs generalizing least most b found with
  | nil => rw [runEnds, hnothing, runsTo_nil]
  | cons c cs ih =>
    rw [runEnds, runsTo_cons]
    split
    · next hstop =>
      have hnone : ¬ (most ≠ some 0 ∧ p c = true) := by
        simpa [Decidable.imp_iff_not_or] using hstop
      rw [hnothing, iff_false_intro hnone, false_and, or_false]
    · next hgo =>
      have hmore : most ≠ some 0 ∧ p c = true := by simpa using hgo
      refine ih.trans ?_
      rw [hnothing, or_assoc, and_iff_right hmore]

/-- The search finds just the ends of a repetition, if it may take as many steps as there are
characters. -/
theorem mem_starEnds {a : Pattern} (ha : ∀ {i j : Position}, j ∈ a.ends i ↔ Matches a i j)
    {fuel : Nat} {i j : Position} (hfuel : i.rest.length ≤ fuel) :
    j ∈ starEnds a.ends fuel i ↔ Matches (.star a) i j := by
  constructor
  · intro h
    induction fuel generalizing i with
    | zero =>
      rw [starEnds, List.mem_singleton] at h
      exact h ▸ .starNone
    | succ fuel ih =>
      rw [starEnds, List.mem_append, List.mem_flatMap, List.mem_singleton] at h
      rcases h with ⟨k, hk, hj⟩ | rfl
      · split at hj
        · next hless => exact .starMore (ha.1 hk) (ih (by omega) hj)
        · cases hj
      · exact .starNone
  · intro h
    generalize hp : a.star = p at h
    induction h generalizing fuel with
    | one | boundary | seq | run => cases hp
    | starNone =>
      cases fuel with
      | zero => exact List.mem_singleton_self _
      | succ fuel => exact List.mem_append_right _ (List.mem_singleton_self _)
    | @starMore a i k j hfirst _ _ ih =>
      cases hp
      obtain ⟨w, -, hi, hk⟩ := hfirst.exists_spells
      -- A repetition that takes nothing leads nowhere, any other uses up fuel.
      cases w with
      | nil =>
        obtain rfl : k = i := by
          rw [hk, behind_nil, ← List.nil_append k.rest, ← hi]
        exact ih hfuel rfl
      | cons c w =>
        have hless : k.rest.length < i.rest.length := by
          rw [hi, List.length_append, List.length_cons]
          omega
        cases fuel with
        | zero => omega
        | succ fuel =>
          refine List.mem_append_left _ (List.mem_flatMap.2 ⟨k, ha.2 hfirst, ?_⟩)
          rw [if_pos hless]
          exact ih (by omega) rfl

/-- **The search is exact.** -/
theorem mem_ends_iff {p : Pattern} {i j : Position} : j ∈ p.ends i ↔ Matches p i j := by
  induction p generalizing i j with
  | one p =>
    constructor
    · intro h
      obtain ⟨b, cs⟩ := i
      cases cs with
      | nil => cases h
      | cons c cs =>
        simp only [ends] at h
        split at h
        · next hc =>
          rw [List.mem_singleton.1 h]
          exact .one hc
        · cases h
    · rintro ⟨hc⟩
      simp [ends, hc]
  | boundary =>
    constructor
    · intro h
      simp only [ends] at h
      split at h
      · next hboundary =>
        rw [List.mem_singleton.1 h]
        exact .boundary hboundary
      · cases h
    · intro h
      cases h with
      | boundary hboundary => simp [ends, hboundary]
  | seq a b iha ihb =>
    rw [ends, List.mem_flatMap]
    simp only [iha, ihb]
    constructor
    · rintro ⟨k, ha, hb⟩
      exact .seq ha hb
    · rintro ⟨⟩
      exact ⟨_, ‹_›, ‹_›⟩
  | run p least most =>
    rw [ends, mem_runEnds, matches_run]
    exact or_iff_right List.not_mem_nil
  | star a iha => exact mem_starEnds iha (Nat.le_refl _)

/-! ### What can be read off a pattern -/

/-- The character is in one of the classes of the pattern. -/
def admits : Pattern → Char → Bool
  | .one p, c | .run p _ _, c => p c
  | .boundary, _ => false
  | .seq a b, c => a.admits c || b.admits c
  | .star a, c => a.admits c

theorem Spells.admits {p : Pattern} {w : List Char} (h : p.Spells w) :
    ∀ c ∈ w, p.admits c = true := by
  induction h with
  | one hc => simpa [Pattern.admits] using hc
  | boundary | starNone => simp
  | run hall _ => exact hall
  | seq _ _ iha ihb =>
    intro c hc
    rcases List.mem_append.1 hc with hc | hc
    · simp [Pattern.admits, iha c hc]
    · simp [Pattern.admits, ihb c hc]
  | starMore _ _ iha ihb =>
    intro c hc
    rcases List.mem_append.1 hc with hc | hc
    · exact iha c hc
    · exact ihb c hc

/-- The least number of characters of a word. -/
def shortest : Pattern → Nat
  | .one _ => 1
  | .boundary | .star _ => 0
  | .seq a b => a.shortest + b.shortest
  | .run _ least _ => least

theorem Spells.shortest_le {p : Pattern} {w : List Char} (h : p.Spells w) :
    p.shortest ≤ w.length := by
  induction h with
  | one | boundary => exact Nat.le_refl _
  | run _ hlength => exact hlength.1
  | starNone | starMore => exact Nat.zero_le _
  | seq _ _ iha ihb =>
    rw [List.length_append]
    exact Nat.add_le_add iha ihb

theorem Spells.ne_nil {p : Pattern} {w : List Char} (hp : 0 < p.shortest) (h : p.Spells w) :
    w ≠ [] :=
  List.ne_nil_of_length_pos (Nat.lt_of_lt_of_le hp h.shortest_le)

/-- Every word of the pattern has a character with the property. -/
def Requires (has : Char → Prop) : Pattern → Prop
  | .one p => ∀ c, p c = true → has c
  | .boundary | .star _ => False
  | .seq a b => a.Requires has ∨ b.Requires has
  | .run p least _ => 0 < least ∧ ∀ c, p c = true → has c

theorem Requires.exists_mem {has : Char → Prop} {p : Pattern} (hp : p.Requires has)
    {w : List Char} (h : p.Spells w) : ∃ c ∈ w, has c := by
  induction h with
  | one hc => exact ⟨_, List.mem_singleton_self _, hp _ hc⟩
  | boundary | starNone | starMore => exact hp.elim
  | run hall hlength =>
    obtain ⟨c, hc⟩ := List.exists_mem_of_length_pos (Nat.lt_of_lt_of_le hp.1 hlength.1)
    exact ⟨c, hc, hp.2 c (hall c hc)⟩
  | seq _ _ iha ihb =>
    rcases hp with hp | hp
    · obtain ⟨c, hc, hhas⟩ := iha hp
      exact ⟨c, List.mem_append_left _ hc, hhas⟩
    · obtain ⟨c, hc, hhas⟩ := ihb hp
      exact ⟨c, List.mem_append_right _ hc, hhas⟩

/-- Every word of the pattern begins with a character that has the property. -/
def Opens (has : Char → Prop) : Pattern → Prop
  | .one p => ∀ c, p c = true → has c
  | .boundary | .star _ => False
  | .seq a _ => a.Opens has
  | .run p least _ => 0 < least ∧ ∀ c, p c = true → has c

theorem Opens.exists_cons {has : Char → Prop} {p : Pattern} (hp : p.Opens has)
    {w : List Char} (h : p.Spells w) : ∃ c w', w = c :: w' ∧ has c := by
  induction h with
  | one hc => exact ⟨_, [], rfl, hp _ hc⟩
  | boundary | starNone | starMore => exact hp.elim
  | run hall hlength =>
    obtain ⟨c, w', rfl⟩ := List.exists_cons_of_length_pos (Nat.lt_of_lt_of_le hp.1 hlength.1)
    exact ⟨c, w', rfl, hp.2 c (hall c List.mem_cons_self)⟩
  | seq _ _ iha _ =>
    obtain ⟨c, v, rfl, hhas⟩ := iha hp
    exact ⟨c, _, rfl, hhas⟩

/-- Every word of the pattern ends with a character that has the property. -/
def Closes (has : Char → Prop) : Pattern → Prop
  | .one p => ∀ c, p c = true → has c
  | .boundary | .star _ => False
  | .seq _ b => b.Closes has
  | .run p least _ => 0 < least ∧ ∀ c, p c = true → has c

theorem Closes.exists_concat {has : Char → Prop} {p : Pattern} (hp : p.Closes has)
    {w : List Char} (h : p.Spells w) : ∃ w' c, w = w' ++ [c] ∧ has c := by
  induction h with
  | one hc => exact ⟨[], _, rfl, hp _ hc⟩
  | boundary | starNone | starMore => exact hp.elim
  | @run p least _ w hall hlength =>
    have hne : w ≠ [] := List.ne_nil_of_length_pos (Nat.lt_of_lt_of_le hp.1 hlength.1)
    exact ⟨w.dropLast, w.getLast hne, (List.dropLast_concat_getLast hne).symm,
      hp.2 _ (hall _ (List.getLast_mem hne))⟩
  | @seq _ _ v _ _ _ _ ihb =>
    obtain ⟨w', c, rfl, hhas⟩ := ihb hp
    exact ⟨v ++ w', c, by simp, hhas⟩

/-- The pattern ends with a run without a limit. -/
def Exhausts (p : Char → Bool) : Pattern → Prop
  | .run q _ most => q = p ∧ most = none
  | .seq _ b => b.Exhausts p
  | .one _ | .boundary | .star _ => False

/-- The preferred end of a run without a limit is where it cannot go on. -/
theorem head?_runEnds {p : Char → Bool} {least : Nat} {b : Option Char} {cs : List Char}
    {found : List Position} {j : Position} (hfound : least = 0 ∨ found = [])
    (h : (runEnds p least none b cs found).head? = some j) : j.rest.head?.any p = false := by
  induction cs generalizing least b found with
  | nil =>
    rw [runEnds] at h
    by_cases hleast : least = 0
    · rw [if_pos hleast, List.head?_cons] at h
      cases h
      rfl
    · rw [if_neg hleast, hfound.resolve_left hleast] at h
      cases h
  | cons c cs ih =>
    rw [runEnds] at h
    by_cases hleast : least = 0
    · rw [if_pos hleast] at h
      by_cases hc : p c = true
      · rw [if_neg (by simp [hc])] at h
        exact ih (.inl (by rw [hleast])) h
      · rw [if_pos (by simp [hc]), List.head?_cons] at h
        cases h
        simpa using hc
    · rw [if_neg hleast, hfound.resolve_left hleast] at h
      split at h
      · cases h
      · exact ih (.inr rfl) h

/-- The preferred match goes on as long as it can. -/
theorem Exhausts.head?_ends {p : Char → Bool} {a : Pattern} (ha : a.Exhausts p) {i j : Position}
    (h : (a.ends i).head? = some j) : j.rest.head?.any p = false := by
  induction a generalizing i with
  | one | boundary | star => exact ha.elim
  | run q least most =>
    obtain ⟨rfl, rfl⟩ := ha
    exact head?_runEnds (.inr rfl) h
  | seq a b _ ihb =>
    rw [ends, List.head?_flatMap, List.findSome?_eq_some_iff] at h
    obtain ⟨_, k, _, -, hk, -⟩ := h
    exact ihb ha hk

/-! ### The words of a pattern -/

theorem spells_one {p : Char → Bool} {w : List Char} :
    Spells (.one p) w ↔ ∃ c, p c = true ∧ w = [c] := by
  constructor
  · rintro ⟨hc⟩
    exact ⟨_, hc, rfl⟩
  · rintro ⟨c, hc, rfl⟩
    exact .one hc

theorem spells_seq {a b : Pattern} {w : List Char} :
    Spells (.seq a b) w ↔ ∃ v v', Spells a v ∧ Spells b v' ∧ w = v ++ v' := by
  constructor
  · rintro ⟨⟩
    exact ⟨_, _, ‹_›, ‹_›, rfl⟩
  · rintro ⟨v, v', ha, hb, rfl⟩
    exact .seq ha hb

theorem spells_run {p : Char → Bool} {least : Nat} {most : Option Nat} {w : List Char} :
    Spells (.run p least most) w ↔ (∀ c ∈ w, p c = true) ∧ Admits least most w.length := by
  constructor
  · rintro ⟨⟩
    exact ⟨‹_›, ‹_›⟩
  · rintro ⟨hall, hadmits⟩
    exact .run hall hadmits

/-! ### Several patterns in a row -/

theorem spells_empty {w : List Char} : Spells empty w ↔ w = [] := by
  rw [empty, spells_run]
  constructor
  · rintro ⟨hall, -⟩
    exact List.eq_nil_iff_forall_not_mem.2 fun c hc => nomatch hall c hc
  · rintro rfl
    exact ⟨List.forall_mem_nil _, Nat.le_refl 0, nofun⟩

theorem spells_all_cons {p : Pattern} {ps : List Pattern} {w : List Char} :
    Spells (all (p :: ps)) w ↔ ∃ v v', Spells p v ∧ Spells (all ps) v' ∧ w = v ++ v' := by
  cases ps with
  | nil =>
    constructor
    · intro h
      exact ⟨w, [], h, spells_empty.2 rfl, by simp⟩
    · rintro ⟨v, v', hv, hv', rfl⟩
      rw [spells_empty.1 hv', List.append_nil]
      exact hv
  | cons q qs => exact spells_seq

/-- The only word is the text itself. -/
theorem spells_exactly {s : String} {w : List Char} : Spells (exactly s) w ↔ w = s.toList := by
  unfold exactly
  induction s.toList generalizing w with
  | nil => exact spells_empty
  | cons c cs ih =>
    rw [List.map_cons, spells_all_cons]
    constructor
    · rintro ⟨v, v', hv, hv', rfl⟩
      obtain ⟨d, hd, rfl⟩ := spells_one.1 hv
      rw [ih.1 hv', eq_of_beq hd]
      rfl
    · rintro rfl
      exact ⟨[c], cs, .one (beq_self_eq_true c), ih.2 rfl, rfl⟩

theorem matches_empty {i j : Position} : Matches empty i j ↔ i = j := by
  constructor
  · intro h
    obtain ⟨w, hw, hi, hj⟩ := h.exists_spells
    obtain rfl := spells_empty.1 hw
    rw [hj, ← List.nil_append j.rest, ← hi]
    rfl
  · rintro rfl
    exact (spells_empty.2 rfl).matches rfl i.before i.rest

theorem matches_all_cons {p : Pattern} {ps : List Pattern} {i k : Position} :
    Matches (all (p :: ps)) i k ↔ ∃ j, Matches p i j ∧ Matches (all ps) j k := by
  cases ps with
  | nil =>
    simp only [all, matches_empty]
    exact ⟨fun h => ⟨k, h, rfl⟩, fun ⟨j, h, heq⟩ => heq ▸ h⟩
  | cons q qs =>
    constructor
    · rintro ⟨⟩
      exact ⟨_, ‹_›, ‹_›⟩
    · rintro ⟨j, hp, hps⟩
      exact .seq hp hps

theorem matches_all_append {ps qs : List Pattern} {i k : Position} :
    Matches (all (ps ++ qs)) i k ↔ ∃ j, Matches (all ps) i j ∧ Matches (all qs) j k := by
  induction ps generalizing i with
  | nil =>
    rw [List.nil_append, all]
    simp only [matches_empty, exists_eq_left']
  | cons p ps ih =>
    simp only [List.cons_append, matches_all_cons, ih]
    constructor
    · rintro ⟨j, hp, l, hps, hqs⟩
      exact ⟨l, ⟨j, hp, hps⟩, hqs⟩
    · rintro ⟨l, ⟨j, hp, hps⟩, hqs⟩
      exact ⟨j, hp, l, hps, hqs⟩

end Pattern

end LiveFlags.Redaction
