import LiveFlags.Proofs.Storage

/-!
# Calls of a storage

What a storage should answer follows from the calls before: a read gets the text that was put under
its namespace and key last, if it was not removed again, and a write succeeds. Every reliable
storage that begins empty answers so (`answers_eq_expected`), the one in memory among them.
-/

namespace LiveFlags

/-- A call of a storage. -/
inductive StorageCall where
  | get (space key : String)
  | set (space key : String) (text : Option String)
deriving DecidableEq

/-- What a call answers. -/
inductive StorageAnswer where
  | text (result : Except StorageError (Option String))
  | done (result : Except StorageError Unit)

namespace StorageCall

def space : StorageCall → String
  | get space _ => space
  | set space _ _ => space

def run {σ : Type} [Storage σ] (s : σ) : StorageCall → StorageAnswer × σ
  | get space key => (.text (Storage.get s space key).1, (Storage.get s space key).2)
  | set space key text => (.done (Storage.set s space key text).1, (Storage.set s space key text).2)

/-- What a storage answers to calls one after another. -/
def answers {σ : Type} [Storage σ] (s : σ) : List StorageCall → List StorageAnswer
  | [] => []
  | call :: calls => (call.run s).1 :: answers (call.run s).2 calls

/-- The text that calls have put under a namespace and a key last. -/
def textAfter (before : List StorageCall) (space key : String) : Option String :=
  before.foldl (fun text call =>
    match call with
    | get _ _ => text
    | set space' key' text' => if space = space' ∧ key = key' then text' else text) none

@[simp]
theorem textAfter_concat_get (before : List StorageCall) (space' key' space key : String) :
    textAfter (before ++ [get space' key']) space key = textAfter before space key := by
  simp [textAfter]

@[simp]
theorem textAfter_concat_set (before : List StorageCall) (space' key' : String)
    (text : Option String) (space key : String) :
    textAfter (before ++ [set space' key' text]) space key =
      if space = space' ∧ key = key' then text else textAfter before space key := by
  simp [textAfter]

/-- What a call should answer after earlier ones. -/
def expected (before : List StorageCall) : StorageCall → StorageAnswer
  | get space key => .text (.ok (textAfter before space key))
  | set _ _ _ => .done (.ok ())

/-- What calls should answer one after another. -/
def expectedAfter (before : List StorageCall) : List StorageCall → List StorageAnswer
  | [] => []
  | call :: calls => call.expected before :: expectedAfter (before ++ [call]) calls

/-- **Reliable storages answer as they should.** -/
theorem answers_eq_expected {σ : Type} [Storage σ] [ReliableStorage σ] (calls : List StorageCall)
    {s : σ} {before : List StorageCall} (h : ReliableStorage.text? s = textAfter before) :
    answers s calls = expectedAfter before calls := by
  induction calls generalizing s before with
  | nil => rfl
  | cons call calls ih =>
    have hanswer : (call.run s).1 = call.expected before := by
      cases call with
      | get space key =>
        exact congrArg StorageAnswer.text (by rw [ReliableStorage.get_eq, h])
      | set space key text =>
        exact congrArg StorageAnswer.done (ReliableStorage.set_eq ..)
    have hafter : ReliableStorage.text? (call.run s).2 = textAfter (before ++ [call]) := by
      funext space' key'
      cases call with
      | get space key =>
        rw [textAfter_concat_get, ← h]
        exact congrFun (congrFun (ReliableStorage.text?_get s space key) space') key'
      | set space key text =>
        rw [textAfter_concat_set, ← h]
        exact ReliableStorage.text?_set ..
    rw [answers, expectedAfter, hanswer, ih hafter]

theorem memory_answers (calls : List StorageCall) :
    answers (∅ : MemoryStorage) calls = expectedAfter [] calls :=
  answers_eq_expected calls (funext fun _ => funext fun _ => MemoryStorage.get?_empty ..)

/-- Something was put into the namespace, or removed from it. -/
def Entered (before : List StorageCall) (space : String) : Prop :=
  ∃ key text, set space key text ∈ before

theorem entered_concat {before : List StorageCall} {call : StorageCall} {space : String} :
    Entered (before ++ [call]) space ↔
      Entered before space ∨ ∃ key text, call = set space key text := by
  simp only [Entered, List.mem_append, List.mem_singleton, exists_or, eq_comm]

end StorageCall

end LiveFlags
