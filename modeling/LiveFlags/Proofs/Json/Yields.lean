import LiveFlags.Json.Record
import LiveFlags.Proofs.Json.Leaves
import LiveFlags.Proofs.Json.Reader
import LiveFlags.Proofs.Json.Shape

/-!
# What readers come to

A property holds of all that a reader can come to, whatever the text (`Yields`). Readers are made
from others by sequence, by repetition over the items of a list and by repetition over the members
of an object, and the property is carried through each of these: through the loops as an invariant
of what has been read so far.

Main statement: `yields_readValue`.
-/

namespace LiveFlags.Json

open Reader

variable {α β σ : Type} {p q : α → Prop}

/-- Whatever the reader comes to has the property. -/
def Yields (r : Reader α) (p : α → Prop) : Prop :=
  ∀ ⦃cs : List Char⦄ ⦃a : α⦄ ⦃rest : List Char⦄, r cs = .ok (a, rest) → p a

/-! ### Sequences -/

theorem yields_true (r : Reader α) : Yields r fun _ => True :=
  fun _ _ _ _ => trivial

theorem yields_fail (fault : Fault) : Yields (fail fault) p :=
  nofun

theorem yields_pure {a : α} (h : p a) : Yields (pure a) p := by
  intro cs b rest hread
  cases hread
  exact h

theorem Yields.bind {r : Reader α} {f : α → Reader β} {q : β → Prop} (h : Yields r p)
    (hf : ∀ a, p a → Yields (f a) q) : Yields (r >>= f) q := by
  intro cs b rest hread
  obtain ⟨a, mid, hr, hnext⟩ := bind_eq_ok_iff.1 hread
  exact hf a (h hr) hnext

/-- A step of which nothing has to be known. -/
theorem yields_bind {r : Reader α} {f : α → Reader β} {q : β → Prop}
    (hf : ∀ a, Yields (f a) q) : Yields (r >>= f) q :=
  (yields_true r).bind fun a _ => hf a

theorem yields_refuse (wanted : String) : Yields (refuse wanted) p :=
  yields_bind fun _ => yields_fail _

theorem yields_decode {r : Reader α} (h : Yields r p) {text : String} {a : α}
    (hread : decode r text = .ok a) : p a := by
  unfold decode at hread
  split at hread
  · next value rest heq =>
    cases hread
    exact h.bind (fun a ha => yields_bind fun _ => yields_pure ha) heq
  · cases hread

/-! ### Repetitions -/

theorem yields_readItems {item : Reader α} (h : Yields item p) (fuel : Nat) (first : Bool)
    {read : List α} (hread : ∀ a ∈ read, p a) :
    Yields (readItems item fuel first read) fun as => ∀ a ∈ as, p a := by
  induction fuel generalizing first read with
  | zero => exact yields_fail _
  | succ fuel ih =>
    refine yields_bind fun more => ?_
    split
    · refine h.bind fun a ha => ih false ?_
      simpa using ⟨ha, hread⟩
    · exact yields_pure (by simpa using hread)

theorem yields_readList {item : Reader α} (h : Yields item p) :
    Yields (readList item) fun as => ∀ a ∈ as, p a :=
  yields_bind fun _ => yields_bind fun fuel =>
    (yields_readItems h fuel true (by simp)).bind fun _ has => yields_bind fun _ => yields_pure has

theorem yields_readMembers {member : String → σ → Reader σ} {inv : σ → Prop}
    (h : ∀ name acc, inv acc → Yields (member name acc) inv) (fuel : Nat) (first : Bool) {acc : σ}
    (hacc : inv acc) : Yields (readMembers member fuel first acc) inv := by
  induction fuel generalizing first acc with
  | zero => exact yields_fail _
  | succ fuel ih =>
    refine yields_bind fun more => ?_
    split
    · exact yields_bind fun name => (h name acc hacc).bind fun next hnext => ih false hnext
    · exact yields_pure hacc

theorem yields_readObject {member : String → σ → Reader σ} {inv : σ → Prop}
    (h : ∀ name acc, inv acc → Yields (member name acc) inv) {start : σ} (hstart : inv start) :
    Yields (readObject member start) inv :=
  yields_bind fun _ => yields_bind fun fuel =>
    (yields_readMembers h fuel true hstart).bind fun _ hlast => yields_bind fun _ =>
      yields_pure hlast

/-! ### Values -/

theorem mem_insertMember {members : List (String × Json)} {name : String} {value : Json}
    {m : String × Json} (h : m ∈ insertMember name value members) :
    m = (name, value) ∨ m ∈ members := by
  induction members with
  | nil => simpa [insertMember] using h
  | cons l members ih =>
    rw [insertMember] at h
    split at h
    · simpa using h
    · split at h
      · rcases List.mem_cons.1 h with h | h
        · exact .inl h
        · exact .inr (List.mem_cons_of_mem _ h)
      · rcases List.mem_cons.1 h with h | h
        · exact .inr (by simp [h])
        · exact (ih h).imp_right (List.mem_cons_of_mem _)

theorem sorted_insertMember {members : List (String × Json)} (name : String) (value : Json)
    (h : members.Pairwise (·.1 < ·.1)) :
    (insertMember name value members).Pairwise (·.1 < ·.1) := by
  induction members with
  | nil => simp [insertMember]
  | cons l members ih =>
    obtain ⟨hl, hmembers⟩ := List.pairwise_cons.1 h
    rw [insertMember]
    split
    · next hlt =>
      refine List.pairwise_cons.2 ⟨fun m hm => ?_, h⟩
      rcases List.mem_cons.1 hm with rfl | hm
      · exact hlt
      · exact String.lt_trans hlt (hl m hm)
    · split
      · next heq => exact List.pairwise_cons.2 ⟨heq ▸ hl, hmembers⟩
      · next hnot hne =>
        refine List.pairwise_cons.2 ⟨fun m hm => ?_, ih hmembers⟩
        rcases mem_insertMember hm with rfl | hm
        · exact String.not_le.1 fun hle => hne (String.le_antisymm hle (String.not_lt.1 hnot))
        · exact hl m hm

/-- A literal that is a whole number has 64 bits. -/
theorem yields_literal :
    Yields (lift Literal.read) fun l => ∀ i, l = .int i → -2 ^ 63 ≤ i ∧ i < 2 ^ 64 := by
  rintro cs l rest hread i rfl
  exact Literal.bounds_of_read hread

theorem yields_number (n : Nat) : Yields (do return (← lift Literal.read).toJson) (Readable n) := by
  refine yields_literal.bind fun l hl => yields_pure ?_
  cases l with
  | int i => exact .int (hl i rfl).1 (hl i rfl).2
  | float x => exact .float x

/-- The members of an object that have been read so far. -/
theorem yields_members {n : Nat} (h : Yields (readValue n) (Readable n)) :
    Yields (readObject (fun name members => return insertMember name (← readValue n) members) [])
      fun members => members.Pairwise (·.1 < ·.1) ∧ ∀ m ∈ members, Readable n m.2 := by
  refine yields_readObject (fun name members hmembers => ?_) ⟨.nil, by simp⟩
  refine h.bind fun value hvalue => yields_pure ⟨sorted_insertMember name value hmembers.1, ?_⟩
  intro m hm
  rcases mem_insertMember hm with rfl | hm
  · exact hvalue
  · exact hmembers.2 m hm

/-- **Values that were read are readable**: they nest no deeper than was allowed, their whole
numbers have 64 bits, and the members of their objects are sorted. -/
theorem yields_readValue (n : Nat) : Yields (readValue n) (Readable n) := by
  induction n using Nat.strongRecOn with
  | ind n ih =>
    unfold readValue
    refine yields_bind fun next => ?_
    split
    · exact yields_fail _
    · exact yields_bind fun _ => yields_pure .null
    · exact yields_bind fun _ => yields_pure (.bool _)
    · exact yields_bind fun _ => yields_pure (.bool _)
    · exact yields_bind fun _ => yields_bind fun s => yields_pure (.str s)
    · split
      · exact yields_fail _
      · next depth =>
        exact (yields_readList (ih depth (by omega))).bind fun _ hitems => yields_pure (.arr hitems)
    · split
      · exact yields_fail _
      · next depth =>
        exact (yields_members (ih depth (by omega))).bind fun _ hmembers =>
          yields_pure (.obj hmembers.1 hmembers.2)
    · split
      · exact yields_number n
      · exact yields_fail _

end LiveFlags.Json
