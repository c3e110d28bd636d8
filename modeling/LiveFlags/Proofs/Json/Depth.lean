import LiveFlags.Json.Record
import LiveFlags.Proofs.Json.Reader

/-!
# Room for more containers

Whoever may open more containers reads whatever could be read before, and reads it alike. A reader
*extends* another one if it agrees with it on all that the other one can read (`Extends`). Readers
that are made from others by sequence or by repetition extend each other if those do, and so a
reader that is given one more level extends itself.

Main statements: `extends_readValue` and `Record.extends_read`.
-/

namespace LiveFlags.Json

open Reader

variable {α β σ : Type}

/-- What `r` can read, `r'` reads alike. -/
def Extends (r r' : Reader α) : Prop :=
  ∀ ⦃cs : List Char⦄ ⦃a : α⦄ ⦃rest : List Char⦄, r cs = .ok (a, rest) → r' cs = .ok (a, rest)

/-- The reader reads alike with one more level. -/
def Widens (r : Nat → Reader α) : Prop :=
  ∀ depth, Extends (r depth) (r (depth + 1))

/-! ### Sequences -/

theorem Extends.refl (r : Reader α) : Extends r r :=
  fun _ _ _ h => h

theorem extends_fail (fault : Fault) (r : Reader α) : Extends (fail fault) r :=
  nofun

theorem Extends.bind {r r' : Reader α} {f f' : α → Reader β} (h : Extends r r')
    (hf : ∀ a, Extends (f a) (f' a)) : Extends (r >>= f) (r' >>= f') := by
  intro cs b rest hread
  obtain ⟨a, mid, hr, hnext⟩ := bind_eq_ok_iff.1 hread
  exact bind_eq_ok_iff.2 ⟨a, mid, h hr, hf a hnext⟩

/-- A step that is the same for both. -/
theorem extends_bind {r : Reader α} {f f' : α → Reader β} (hf : ∀ a, Extends (f a) (f' a)) :
    Extends (r >>= f) (r >>= f') :=
  (Extends.refl r).bind hf

theorem Extends.map {r r' : Reader α} (h : Extends r r') (f : α → β) :
    Extends (do return f (← r)) (do return f (← r')) :=
  h.bind fun a => .refl (pure (f a))

theorem Extends.decode {r r' : Reader α} (h : Extends r r') {text : String} {a : α}
    (hread : decode r text = .ok a) : Json.decode r' text = .ok a := by
  unfold Json.decode at hread ⊢
  split at hread
  · next value rest heq =>
    cases hread
    have hend : Extends (do let value ← r; expectEnd; return value)
        (do let value ← r'; expectEnd; return value) := h.bind fun value => .refl _
    rw [hend heq]
  · cases hread

/-! ### Repetitions -/

theorem Extends.readItems {item item' : Reader α} (h : Extends item item') (fuel : Nat)
    (first : Bool) (read : List α) :
    Extends (readItems item fuel first read) (Json.readItems item' fuel first read) := by
  induction fuel generalizing first read with
  | zero => exact extends_fail _ _
  | succ fuel ih =>
    refine extends_bind fun more => ?_
    split
    · exact h.bind fun a => ih false (a :: read)
    · exact .refl _

theorem Extends.readList {item item' : Reader α} (h : Extends item item') :
    Extends (readList item) (Json.readList item') :=
  extends_bind fun _ => extends_bind fun fuel =>
    (h.readItems fuel true []).bind fun _ => .refl _

theorem extends_readMembers {member member' : String → σ → Reader σ}
    (h : ∀ name acc, Extends (member name acc) (member' name acc)) (fuel : Nat) (first : Bool)
    (acc : σ) :
    Extends (readMembers member fuel first acc) (readMembers member' fuel first acc) := by
  induction fuel generalizing first acc with
  | zero => exact extends_fail _ _
  | succ fuel ih =>
    refine extends_bind fun more => ?_
    split
    · exact extends_bind fun name => (h name acc).bind fun next => ih false next
    · exact .refl _

theorem extends_readObject {member member' : String → σ → Reader σ}
    (h : ∀ name acc, Extends (member name acc) (member' name acc)) (start : σ) :
    Extends (readObject member start) (readObject member' start) :=
  extends_bind fun _ => extends_bind fun fuel =>
    (extends_readMembers h fuel true start).bind fun _ => .refl _

theorem Extends.readOptional {r r' : Reader α} (h : Extends r r') :
    Extends (readOptional r) (Json.readOptional r') := by
  refine extends_bind fun next => ?_
  split
  · exact .refl _
  · exact h.map some

/-! ### Values -/

/-- **What can be read as a value is read alike with one more level.** -/
theorem extends_readValue : Widens readValue := by
  intro depth
  induction depth with
  | zero =>
    unfold readValue
    refine extends_bind fun next => ?_
    -- Without a level to spare, a container is refused.
    split
    case h_6 => exact extends_fail _ _
    case h_7 => exact extends_fail _ _
    all_goals exact .refl _
  | succ depth ih =>
    unfold readValue
    refine extends_bind fun next => ?_
    split
    case h_6 => exact ih.readList.map Json.arr
    case h_7 =>
      refine Extends.map ?_ Json.obj
      refine extends_readObject (fun name members => ?_) []
      exact ih.map fun value => insertMember name value members
    all_goals exact .refl _

theorem extends_nested {r : Nat → Reader α} (h : Widens r) :
    Widens fun depth => nested depth r := by
  intro depth
  cases depth with
  | zero => exact extends_fail _ _
  | succ depth => exact h depth

theorem extends_readMap {member : Nat → String → σ → Reader σ}
    (h : ∀ name acc, Widens fun depth => member depth name acc) (start : σ) :
    Widens fun depth => readMap depth member start := by
  intro depth
  refine extends_bind fun c => ?_
  split
  · refine extends_nested (fun depth => ?_) depth
    exact extends_readObject (fun name acc => h name acc depth) start
  · exact .refl _

/-! ### Records -/

namespace Record

variable {record : Record σ}

theorem extends_readMember
    (h : ∀ field ∈ record.fields, ∀ draft, Widens fun depth => field.read depth draft)
    (name : String) (draft : σ) : Widens fun depth => record.readMember depth name draft := by
  intro depth
  simp only [readMember]
  split
  · next field hfind =>
    split
    · exact .refl _
    · exact h field (List.mem_of_find?_eq_some hfind) draft depth
  · exact .refl _

theorem extends_readFields {fields : List (Field σ)}
    (h : ∀ field ∈ fields, ∀ draft, Widens fun depth => field.read depth draft) (n : Nat)
    (draft : σ) : Widens fun depth => record.readFields depth n fields draft := by
  intro depth
  induction fields generalizing n draft with
  | nil => exact .refl _
  | cons field fields ih =>
    have hrest := ih fun f hf => h f (List.mem_cons_of_mem _ hf)
    refine extends_bind fun more => ?_
    split
    · exact (h field List.mem_cons_self draft depth).bind fun next => hrest (n + 1) next
    · split
      · exact hrest (n + 1) draft
      · exact .refl _

/-- **A record is read alike with one more level** if each of its fields is. -/
theorem extends_read
    (h : ∀ field ∈ record.fields, ∀ draft, Widens fun depth => field.read depth draft)
    (empty : σ) : Widens fun depth => record.read depth empty := by
  intro depth
  refine extends_bind fun c => ?_
  split
  · refine extends_nested (fun depth => ?_) depth
    exact extends_bind fun _ => (extends_readFields h 0 empty depth).bind fun draft => .refl _
  · refine extends_nested (fun depth => ?_) depth
    refine extends_bind fun _ => extends_bind fun fuel => ?_
    exact (extends_readMembers (fun name acc => extends_readMember h name acc depth) fuel true
      empty).bind fun draft => .refl _
  · exact .refl _

end Record

end LiveFlags.Json
