import LiveFlags.Proofs.Json.Leaves
import LiveFlags.Proofs.Json.Reader
import LiveFlags.Proofs.Json.Shape

/-!
# Values that read back

A reader *reads* a value as `a` if it turns the text of the value into `a` and stops at what
follows, whatever that is (`Reads`). Readers of lists and objects inherit this from the readers of
their items and members. The loops over the items of a container are bounded by the length of the
text, which is enough, since each item takes up at least one character (`length_le_itemsTail`).

With that, a value comes back as it was if all its numbers are whole and its containers nest no
deeper than the reader allows.

Main statement: `Readable.reads`.
-/

namespace LiveFlags.Json

open Reader

variable {α β σ : Type}

/-- The reader turns the text of the value into `a`, whatever follows the value. -/
def Reads (r : Reader α) (value : Json) (a : α) : Prop :=
  ∀ rest, Follow rest → r (value.chars ++ rest) = .ok (a, rest)

theorem Reads.map {r : Reader α} {value : Json} {a : α} (h : Reads r value a) (f : α → β) :
    Reads (do return f (← r)) value (f a) := by
  intro rest hrest
  exact bind_of_ok (h rest hrest) _

theorem decode_text {r : Reader α} {value : Json} {a : α} (h : Reads r value a) :
    decode r value.text = .ok a := by
  have hread := h [] follow_nil
  rw [List.append_nil] at hread
  simp only [decode, text, String.toList_ofList]
  rw [bind_of_ok hread]
  rfl

/-! ### Lists -/

/-- A character with which a value begins. -/
def Begins (c : Char) : Prop :=
  isSpace c = false ∧ c ≠ ']'
deriving Decidable

theorem hasItem_first {c : Char} (h : Begins c) (cs : List Char) :
    hasItem true (c :: cs) = .ok (true, c :: cs) := by
  rw [hasItem, bind_of_ok (peek_cons h.1 cs)]
  generalize hd : some c = d
  split
  · cases hd
  · exact absurd (Option.some.inj hd) h.2
  · rfl

theorem hasItem_next {c : Char} (h : Begins c) (cs : List Char) :
    hasItem false (',' :: c :: cs) = .ok (true, c :: cs) := by
  rw [hasItem, bind_of_ok (peek_cons (by decide) _)]
  generalize hcomma : some ',' = comma
  split
  · cases hcomma
  · exact absurd (Option.some.inj hcomma) (by decide)
  · cases hcomma
    rw [if_neg Bool.false_ne_true, if_pos rfl, bind_of_ok (advance_cons _ _),
      bind_of_ok (peek_cons h.1 cs)]
    generalize hd : some c = d
    split
    · cases hd
    · exact absurd (Option.some.inj hd) h.2
    · rfl

theorem closeList_cons (rest : List Char) : closeList (']' :: rest) = .ok ((), rest) :=
  rfl

theorem not_isSpace_of_number {c : Char} (h : c = '-' ∨ c.isDigit = true) : isSpace c = false := by
  refine Bool.eq_false_iff.2 fun hspace => ?_
  simp only [isSpace, Bool.or_eq_true, beq_iff_eq] at hspace
  obtain ((rfl | rfl) | rfl) | rfl := hspace <;> revert h <;> decide

/-- The text of an object after its opening brace. -/
def membersText : List (String × Json) → List Char
  | [] => ['}']
  | (name, value) :: members => quote name ++ ':' :: value.chars ++ membersTail members

theorem chars_obj (members : List (String × Json)) :
    (Json.obj members).chars = '{' :: membersText members := by
  cases members <;> simp [chars, membersText]

/-- A whole number begins with a sign or a digit. -/
theorem exists_toString_eq_cons (i : Int) :
    ∃ c cs, (toString i).toList = c :: cs ∧ (c = '-' ∨ c.isDigit = true) := by
  rcases Int.lt_or_le i 0 with hneg | hpos
  · obtain ⟨n, rfl⟩ : ∃ n : Nat, i = -n := ⟨i.natAbs, by omega⟩
    exact ⟨_, _, Literal.toList_toString_neg (by omega), .inl rfl⟩
  · obtain ⟨n, rfl⟩ := Int.eq_ofNat_of_zero_le hpos
    obtain ⟨c, cs, hcs⟩ := List.exists_cons_of_ne_nil (Nat.toDigits_ne_nil (n := n) (b := 10))
    exact ⟨c, cs, (Literal.toList_toString_ofNat n).trans hcs,
      .inr (Literal.isDigit_of_toDigits hcs)⟩

/-- A whole number is recognized by its first character, and read from there. -/
theorem exists_chars_int {i : Int} (hlow : -2 ^ 63 ≤ i) (hhigh : i < 2 ^ 64) {rest : List Char}
    (hrest : Follow rest) :
    ∃ c cs, (Json.int i).chars ++ rest = c :: cs ∧ (c = '-' ∨ c.isDigit = true) ∧
      lift Literal.read (c :: cs) = .ok (.int i, rest) := by
  have hread := Literal.read_toString hlow hhigh hrest
  obtain ⟨c, cs, hcs, hnumber⟩ := exists_toString_eq_cons i
  rw [hcs, List.cons_append] at hread
  refine ⟨c, cs ++ rest, ?_, hnumber, hread⟩
  rw [chars, hcs, List.cons_append]

theorem exists_chars_arr (items : List Json) : ∃ cs, (Json.arr items).chars = '[' :: cs := by
  cases items <;> exact ⟨_, rfl⟩

/-- A value without floating-point numbers begins like a value, and only `null` with an `n`. -/
theorem exists_chars_eq_cons {value : Json} (h : value.isWhole = true) :
    ∃ c cs, value.chars = c :: cs ∧ Begins c ∧ (c = 'n' → value = .null) := by
  cases value with
  | null => exact ⟨_, _, rfl, by decide, fun _ => rfl⟩
  | bool b => cases b <;> exact ⟨_, _, rfl, by decide, by decide⟩
  | int i =>
    obtain ⟨c, cs, hcs, hnumber⟩ := exists_toString_eq_cons i
    refine ⟨c, cs, hcs, ⟨not_isSpace_of_number hnumber, ?_⟩, ?_⟩
    · rintro rfl
      exact absurd hnumber (by decide)
    · rintro rfl
      exact absurd hnumber (by decide)
  | float x => cases h
  | str s => exact ⟨_, _, rfl, by decide, fun h => absurd h (by decide)⟩
  | arr items =>
    obtain ⟨cs, hcs⟩ := exists_chars_arr items
    exact ⟨_, cs, hcs, by decide, fun h => absurd h (by decide)⟩
  | obj members => exact ⟨_, _, chars_obj members, by decide, fun h => absurd h (by decide)⟩

theorem length_le_itemsTail (items : List Json) : items.length ≤ (itemsTail items).length := by
  induction items with
  | nil => simp [itemsTail]
  | cons value items ih =>
    simp only [itemsTail, List.length_append, List.length_cons]
    omega

theorem follow_itemsTail (items : List Json) (rest : List Char) :
    Follow (itemsTail items ++ rest) := by
  cases items <;> exact follow_cons (by decide)

/-- What stands after the first item is read item by item. -/
theorem readItems_itemsTail {item : Reader α} {text : α → Json} {as : List α}
    (hwhole : ∀ a ∈ as, (text a).isWhole = true) (h : ∀ a ∈ as, Reads item (text a) a)
    {fuel : Nat} (hfuel : as.length < fuel) (read : List α) (rest : List Char) :
    readItems item fuel false read (itemsTail (as.map text) ++ rest) =
      .ok (read.reverse ++ as, ']' :: rest) := by
  -- Each item uses up one unit of fuel, and the closing bracket needs one more.
  induction as generalizing fuel read with
  | nil =>
    obtain ⟨fuel, rfl⟩ := Nat.exists_eq_add_of_lt hfuel
    rw [List.append_nil]
    rfl
  | cons a as ih =>
    obtain ⟨fuel, rfl⟩ := Nat.exists_eq_add_one.2 (Nat.zero_lt_of_lt hfuel)
    obtain ⟨c, cs, hcs, hbegins, -⟩ := exists_chars_eq_cons (hwhole a (by simp))
    have hitem := h a (by simp) _ (follow_itemsTail (as.map text) rest)
    simp only [List.map_cons, itemsTail, List.cons_append, List.append_assoc, readItems]
    rw [hcs, List.cons_append] at hitem ⊢
    rw [bind_of_ok (hasItem_next hbegins _), if_pos rfl, bind_of_ok hitem,
      ih (fun a ha => hwhole a (by simp [ha])) (fun a ha => h a (by simp [ha]))
        (by rw [List.length_cons] at hfuel; omega)]
    simp

/-- A list is read if its items are. -/
theorem Reads.list {item : Reader α} {text : α → Json} {as : List α}
    (hwhole : ∀ a ∈ as, (text a).isWhole = true) (h : ∀ a ∈ as, Reads item (text a) a) :
    Reads (readList item) (.arr (as.map text)) as := by
  intro rest _
  cases as with
  | nil => rfl
  | cons a as =>
    obtain ⟨c, cs, hcs, hbegins, -⟩ := exists_chars_eq_cons (hwhole a (by simp))
    have hitem := h a (by simp) _ (follow_itemsTail (as.map text) rest)
    have hlength := length_le_itemsTail (as.map text)
    rw [List.length_map] at hlength
    have htail (fuel : Nat) (hfuel : as.length < fuel) :=
      readItems_itemsTail (fun a ha => hwhole a (by simp [ha])) (fun a ha => h a (by simp [ha]))
        hfuel [a] rest
    simp only [List.map_cons, chars, List.cons_append, List.append_assoc]
    rw [readList, bind_of_ok (advance_cons _ _), bind_of_ok (itemsLeft_apply _)]
    rw [hcs, List.cons_append] at hitem ⊢
    -- The first item has no comma before it, all others have.
    have hitems : readItems item ((c :: (cs ++ (itemsTail (as.map text) ++ rest))).length + 1) true
        [] (c :: (cs ++ (itemsTail (as.map text) ++ rest))) = .ok (a :: as, ']' :: rest) := by
      rw [readItems, bind_of_ok (hasItem_first hbegins _), if_pos rfl, bind_of_ok hitem, htail]
      · rfl
      · simp only [List.length_cons, List.length_append]
        omega
    rw [bind_of_ok hitems, bind_of_ok (closeList_cons _)]
    rfl

/-! ### Objects -/

/-- The readers of the members lead from one result to another. -/
inductive ReadsMembers (member : String → σ → Reader σ) : List (String × Json) → σ → σ → Prop
  | nil (acc : σ) : ReadsMembers member [] acc acc
  | cons {name : String} {value : Json} {members : List (String × Json)} {acc next last : σ} :
    Reads (member name acc) value next → ReadsMembers member members next last →
      ReadsMembers member ((name, value) :: members) acc last

theorem ReadsMembers.append {member : String → σ → Reader σ} {ms ns : List (String × Json)}
    {a b c : σ} (hms : ReadsMembers member ms a b) (hns : ReadsMembers member ns b c) :
    ReadsMembers member (ms ++ ns) a c := by
  induction hms with
  | nil => exact hns
  | cons hvalue _ ih => exact .cons hvalue (ih hns)

/-- A member that is written only if there is something to write. -/
theorem ReadsMembers.option {member : String → σ → Reader σ} {name : String} {text : β → Json}
    {o : Option β} {acc next : σ} (hnone : o = none → next = acc)
    (hsome : ∀ b, o = some b → Reads (member name acc) (text b) next) :
    ReadsMembers member (o.map fun b => (name, text b)).toList acc next := by
  cases o with
  | none =>
    rw [hnone rfl]
    exact .nil acc
  | some b => exact .cons (hsome b rfl) (.nil next)

/-- A mark that is written only if it is on. -/
theorem ReadsMembers.mark {member : String → σ → Reader σ} {name : String} {b : Bool}
    {acc next : σ} (hoff : b = false → next = acc)
    (hon : b = true → Reads (member name acc) (.bool true) next) :
    ReadsMembers member (if b then [(name, .bool true)] else []) acc next := by
  cases b with
  | false =>
    rw [hoff rfl]
    exact .nil acc
  | true => exact .cons (hon rfl) (.nil next)

theorem length_le_membersTail (members : List (String × Json)) :
    members.length ≤ (membersTail members).length := by
  induction members with
  | nil => simp [membersTail]
  | cons m members ih =>
    simp only [membersTail, List.length_append, List.length_cons]
    omega

theorem follow_membersTail (members : List (String × Json)) (rest : List Char) :
    Follow (membersTail members ++ rest) := by
  cases members <;> exact follow_cons (by decide)

theorem hasMember_first (name : String) (rest : List Char) :
    hasMember true (quote name ++ rest) = .ok (true, quote name ++ rest) :=
  rfl

theorem hasMember_next (name : String) (rest : List Char) :
    hasMember false (',' :: (quote name ++ rest)) = .ok (true, quote name ++ rest) :=
  rfl

theorem memberName_quote (name : String) (rest : List Char) :
    memberName (quote name ++ ':' :: rest) = .ok (name, rest) := by
  simp only [quote, List.cons_append, List.append_assoc, List.nil_append]
  rw [memberName, bind_of_ok (advance_cons _ _), bind_of_ok (readString_quote name _)]
  rfl

theorem closeObject_cons (rest : List Char) : closeObject ('}' :: rest) = .ok ((), rest) :=
  rfl

/-- One turn of the loop over the members. -/
theorem readMembers_of_hasMember {member : String → σ → Reader σ} {first : Bool} {name : String}
    {value : Json} {acc next : σ} {cs tail : List Char}
    (hmore : hasMember first cs = .ok (true, quote name ++ ':' :: (value.chars ++ tail)))
    (hvalue : Reads (member name acc) value next) (htail : Follow tail) (fuel : Nat) :
    readMembers member (fuel + 1) first acc cs = readMembers member fuel false next tail := by
  rw [readMembers, bind_of_ok hmore, if_pos rfl, bind_of_ok (memberName_quote name _),
    bind_of_ok (hvalue tail htail)]

/-- What stands after the first member is read member by member. -/
theorem readMembers_membersTail {member : String → σ → Reader σ} {members : List (String × Json)}
    {acc last : σ} (h : ReadsMembers member members acc last) {fuel : Nat}
    (hfuel : members.length < fuel) (rest : List Char) :
    readMembers member fuel false acc (membersTail members ++ rest) = .ok (last, '}' :: rest) := by
  induction h generalizing fuel with
  | nil =>
    obtain ⟨fuel, rfl⟩ := Nat.exists_eq_add_one.2 (Nat.zero_lt_of_lt hfuel)
    rfl
  | @cons name value members acc next last hvalue _ ih =>
    obtain ⟨fuel, rfl⟩ := Nat.exists_eq_add_one.2 (Nat.zero_lt_of_lt hfuel)
    simp only [membersTail, List.cons_append, List.append_assoc]
    rw [readMembers_of_hasMember (hasMember_next name _) hvalue (follow_membersTail members rest)]
    exact ih (by rw [List.length_cons] at hfuel; omega)

/-- The members of an object are read from the text after its opening brace. -/
theorem readMembers_membersText {member : String → σ → Reader σ} {members : List (String × Json)}
    {acc last : σ} (h : ReadsMembers member members acc last) (rest : List Char) :
    readMembers member ((membersText members ++ rest).length + 1) true acc
      (membersText members ++ rest) = .ok (last, '}' :: rest) := by
  cases h with
  | nil => rfl
  | @cons name value members _ next _ hvalue htail =>
    have hlength := length_le_membersTail members
    simp only [membersText, List.cons_append, List.append_assoc]
    rw [readMembers_of_hasMember (hasMember_first name _) hvalue (follow_membersTail members rest)]
    refine readMembers_membersTail htail ?_ rest
    simp only [List.length_append, List.length_cons]
    omega

/-- An object is read if its members are. -/
theorem Reads.object {member : String → σ → Reader σ} {members : List (String × Json)}
    {start last : σ} (h : ReadsMembers member members start last) :
    Reads (readObject member start) (.obj members) last := by
  intro rest _
  rw [chars_obj, List.cons_append, readObject, bind_of_ok (advance_cons _ _),
    bind_of_ok (itemsLeft_apply _), bind_of_ok (readMembers_membersText h rest),
    bind_of_ok (closeObject_cons _)]
  rfl

/-! ### Values -/

/-- A member whose name is greater than all others goes to the end. -/
theorem insertMember_of_lt {members : List (String × Json)} {name : String} (value : Json)
    (h : ∀ m ∈ members, m.1 < name) :
    insertMember name value members = members ++ [(name, value)] := by
  induction members with
  | nil => rfl
  | cons m members ih =>
    have hlt : m.1 < name := h m (by simp)
    have hnot : ¬ name < m.1 := fun hgt => String.lt_irrefl _ (String.lt_trans hlt hgt)
    have hne : name ≠ m.1 := fun heq => String.lt_irrefl _ (heq ▸ hlt)
    rw [insertMember, if_neg hnot, if_neg hne, ih fun m hm => h m (by simp [hm])]
    rfl

theorem readsMembers_insertMember {reader : Reader Json} {members : List (String × Json)}
    (h : ∀ m ∈ members, Reads reader m.2 m.2) {before : List (String × Json)}
    (hsorted : (before ++ members).Pairwise (·.1 < ·.1)) :
    ReadsMembers (fun name members => return insertMember name (← reader) members) members before
      (before ++ members) := by
  induction members generalizing before with
  | nil => simpa using .nil before
  | cons m members ih =>
    have hlast : ∀ b ∈ before, b.1 < m.1 := fun b hb =>
      (List.pairwise_append.1 hsorted).2.2 b hb m (by simp)
    -- The names come in order, so each member is inserted at the end.
    have hnext : Reads (do return insertMember m.1 (← reader) before) m.2
        (before ++ [(m.1, m.2)]) := by
      rw [← insertMember_of_lt _ hlast]
      exact (h m (by simp)).map fun value => insertMember m.1 value before
    have hsorted' : (before ++ [m] ++ members).Pairwise (·.1 < ·.1) := by simpa using hsorted
    have hrest := ih (fun m hm => h m (by simp [hm])) hsorted'
    rw [List.append_assoc, List.singleton_append] at hrest
    exact .cons hnext hrest

theorem readValue_text (n : Nat) (cs : List Char) :
    readValue n ('"' :: cs) = (do return .str (← readString) : Reader Json) cs := by
  unfold readValue
  rfl

theorem readValue_list (n : Nat) (cs : List Char) :
    readValue (n + 1) ('[' :: cs) =
      (do return .arr (← readList (readValue n)) : Reader Json) ('[' :: cs) := by
  rw [readValue]
  rfl

theorem readValue_object (n : Nat) (cs : List Char) :
    readValue (n + 1) ('{' :: cs) =
      (do
        return .obj (← readObject
          (fun name members => return insertMember name (← readValue n) members) []) : Reader Json)
      ('{' :: cs) := by
  rw [readValue]
  rfl

theorem readValue_number (n : Nat) {c : Char} (h : c = '-' ∨ c.isDigit = true) (cs : List Char) :
    readValue n (c :: cs) = (do return (← lift Literal.read).toJson : Reader Json) (c :: cs) := by
  unfold readValue
  -- A sign or a digit is none of the characters that select another branch.
  rw [bind_of_ok (peek_cons (not_isSpace_of_number h) cs)]
  generalize hd : some c = d
  split
  case h_8 => cases hd; rw [if_pos h]
  case h_1 => cases hd
  all_goals exact absurd h (by cases hd; decide)

/-- **A value of whole numbers reads back** if its containers nest no deeper than is allowed. -/
theorem Readable.reads {n : Nat} {value : Json} (h : Readable n value)
    (hwhole : value.isWhole = true) : Reads (readValue n) value value := by
  induction h with
  | null =>
    intro rest _
    unfold readValue
    rfl
  | bool b =>
    intro rest _
    unfold readValue
    cases b <;> rfl
  | @int n i hlow hhigh =>
    intro rest hrest
    obtain ⟨c, cs, hcs, hnumber, hread⟩ := exists_chars_int hlow hhigh hrest
    rw [hcs, readValue_number n hnumber]
    exact bind_of_ok hread _
  | float x => cases hwhole
  | str s =>
    intro rest _
    simp only [chars, quote, List.cons_append, List.append_assoc, List.nil_append]
    rw [readValue_text]
    exact bind_of_ok (readString_quote s rest) _
  | @arr n items _ ih =>
    have hitems := isWhole_arr.1 hwhole
    have hlist : Reads (readList (readValue n)) (.arr (items.map id)) items :=
      Reads.list hitems fun v hv => ih v hv (hitems v hv)
    rw [List.map_id] at hlist
    intro rest hrest
    have hlist := hlist rest hrest
    obtain ⟨cs, hcs⟩ := exists_chars_arr items
    rw [hcs, List.cons_append] at hlist ⊢
    rw [readValue_list]
    exact bind_of_ok hlist _
  | @obj n members hsorted _ ih =>
    have hmembers := isWhole_obj.1 hwhole
    -- The names ascend, so each member goes behind those that were read.
    have hread := readsMembers_insertMember (fun m hm => ih m hm (hmembers m hm))
      (show ([] ++ members).Pairwise fun (m l : String × Json) => m.1 < l.1 from hsorted)
    intro rest hrest
    have hobject := Reads.object hread rest hrest
    rw [chars_obj, List.cons_append] at hobject ⊢
    rw [readValue_object]
    exact bind_of_ok hobject _

end LiveFlags.Json
