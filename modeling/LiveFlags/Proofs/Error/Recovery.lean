import LiveFlags.Error.Source

/-!
# Two verdicts on an error

Whether trying again makes sense is told twice. A source goes by the kind and the status of a
`SourceError`; an application gets the error as a `ClientError` and goes by its code. Both verdicts
are told by what they rule out. The two agree on the responses of three statuses, which deny the
request and have a code that says so. The source gives up after any other status that blames the
request as well (`isRecoverable_eq_false_iff`), and the code rules out all errors that say too
little for a code of their own (`isRecoverable_code_eq_false_iff`).

So the verdicts differ in two ways. A status that blames the request but has no code of its own gets
that of an invalid response, which counts as one that may pass: the application tries again where
the source has given up. An error that says too little gets the code of a failed initialization,
which does not pass: the application gives up where the source tries again.

Main statement: `verdicts_agree_iff`.
-/

namespace LiveFlags

/-! ### Statuses -/

/-- The statuses that are not worth a repetition are those that blame the request, but for three. -/
theorem isRetryableStatus_eq_false_iff {status : Nat} : isRetryableStatus status = false ↔
    400 ≤ status ∧ status < 500 ∧ status ∉ [400, 408, 429] := by
  simp only [isRetryableStatus]
  split
  · next h => simp [h, and_assoc]
  · next h =>
    simp only [Bool.true_eq_false, false_iff]
    exact fun hstatus => h ⟨hstatus.1, hstatus.2.1⟩

/-- Of all statuses only these get a code that rules out another try. -/
theorem ErrorCode.isRecoverable_ofStatus_eq_false_iff {status : Nat} :
    (ofStatus status).isRecoverable = false ↔ status ∈ [401, 403, 404] := by
  unfold ofStatus
  split
  case h_7 h401 h403 h404 _ _ =>
    -- Neither the code of a failure of the service nor that of an invalid response rules one out.
    have hcode : (if 500 ≤ status ∧ status ≤ 599 then httpServerError
        else httpInvalidResponse).isRecoverable = true := by
      split <;> rfl
    simpa [hcode] using ⟨h401, h403, h404⟩
  all_goals simp [isRecoverable]

namespace SourceError

/-! ### Errors -/

/-- The response denies the request, with a status that has a code of its own. -/
def IsDenied (e : SourceError) : Prop :=
  e.kind = .response ∧ ∃ status, e.status = some status ∧ status ∈ [401, 403, 404]

/-- The response blames the request, with a status that has no code of its own. -/
def IsUnlisted (e : SourceError) : Prop :=
  e.kind = .response ∧ ∃ status, e.status = some status ∧ 400 ≤ status ∧ status < 500 ∧
    status ∉ [400, 401, 403, 404, 408, 429]

/-- The error says neither what has failed nor with which status. -/
def IsUnspecific (e : SourceError) : Prop :=
  e.kind = .unknown ∨ e.kind = .response ∧ e.status = none

theorem IsUnlisted.not_isDenied {e : SourceError} (h : e.IsUnlisted) : ¬ e.IsDenied := by
  obtain ⟨-, status, hstatus, -, -, hmem⟩ := h
  rintro ⟨-, status', hstatus', hmem'⟩
  cases hstatus.symm.trans hstatus'
  simp only [List.mem_cons, List.not_mem_nil, or_false] at hmem hmem'
  omega

theorem IsUnspecific.status_eq_none {e : SourceError} (h : e.IsUnspecific)
    (hkind : e.kind = .response) : e.status = none := by
  rcases h with hunknown | ⟨-, hnone⟩
  · cases hkind.symm.trans hunknown
  · exact hnone

theorem IsUnspecific.not_isDenied {e : SourceError} (h : e.IsUnspecific) : ¬ e.IsDenied := by
  rintro ⟨hkind, status, hstatus, -⟩
  cases hstatus.symm.trans (h.status_eq_none hkind)

theorem IsUnspecific.not_isUnlisted {e : SourceError} (h : e.IsUnspecific) : ¬ e.IsUnlisted := by
  rintro ⟨hkind, status, hstatus, -⟩
  cases hstatus.symm.trans (h.status_eq_none hkind)

/-- **When a source gives up.** -/
theorem isRecoverable_eq_false_iff {e : SourceError} :
    e.isRecoverable = false ↔ e.IsDenied ∨ e.IsUnlisted := by
  obtain ⟨kind, status, message⟩ := e
  cases kind with
  | network | invalidData | store | unknown => simp [isRecoverable, IsDenied, IsUnlisted]
  | response =>
    cases status with
    | none => simp [isRecoverable, IsDenied, IsUnlisted]
    | some status =>
      simp only [isRecoverable, isRetryableStatus_eq_false_iff, IsDenied, IsUnlisted, true_and,
        Option.some.injEq, exists_eq_left', List.mem_cons, List.not_mem_nil, or_false]
      omega

/-- **When the code of an error rules out another try.** -/
theorem isRecoverable_code_eq_false_iff {e : SourceError} :
    e.code.isRecoverable = false ↔ e.IsDenied ∨ e.IsUnspecific := by
  obtain ⟨kind, status, message⟩ := e
  cases kind with
  | network | invalidData | store | unknown =>
    simp [code, ErrorCode.isRecoverable, IsDenied, IsUnspecific]
  | response =>
    cases status with
    | none => simp [code, ErrorCode.isRecoverable, IsDenied, IsUnspecific]
    | some status =>
      simp [code, ErrorCode.isRecoverable_ofStatus_eq_false_iff, IsDenied, IsUnspecific]

/-- **The two verdicts on an error agree, with two exceptions.** Whatever the kind, the status and
the message, the source tries again if and only if the application should, unless the error is
unlisted or not specific. The source has given up in the first case and tries again in the second,
and the application does the opposite. -/
theorem verdicts_agree_iff (e : SourceError) :
    (e.isRecoverable = e.toClientError.code.isRecoverable ↔
      ¬ (e.IsUnlisted ∨ e.IsUnspecific)) ∧
    (e.IsUnlisted → e.isRecoverable = false) ∧ (e.IsUnspecific → e.isRecoverable = true) := by
  have hsource : e.isRecoverable = false ↔ e.IsDenied ∨ e.IsUnlisted := isRecoverable_eq_false_iff
  have hclient : e.toClientError.code.isRecoverable = false ↔ e.IsDenied ∨ e.IsUnspecific :=
    isRecoverable_code_eq_false_iff
  refine ⟨?_, fun h => hsource.2 (.inr h), fun h => ?_⟩
  · -- Both verdicts are negative for denied errors, and each for one more kind.
    have hsame : e.isRecoverable = e.toClientError.code.isRecoverable ↔
        (e.IsDenied ∨ e.IsUnlisted ↔ e.IsDenied ∨ e.IsUnspecific) := by
      rw [← hsource, ← hclient]
      cases e.isRecoverable <;> cases e.toClientError.code.isRecoverable <;> decide
    rw [hsame]
    constructor
    · rintro hiff (h | h)
      · rcases hiff.1 (.inr h) with hdenied | hunspecific
        · exact h.not_isDenied hdenied
        · exact hunspecific.not_isUnlisted h
      · rcases hiff.2 (.inr h) with hdenied | hunlisted
        · exact h.not_isDenied hdenied
        · exact h.not_isUnlisted hunlisted
    · intro h
      rw [or_iff_left fun hunlisted => h (.inl hunlisted),
        or_iff_left fun hunspecific => h (.inr hunspecific)]
  · rw [← Bool.not_eq_false, hsource]
    exact fun hgivesUp => hgivesUp.elim h.not_isDenied h.not_isUnlisted

/-- Where a payment is required, the source gives up and the application should try again. With a
failure of which nothing is known it is the other way round. -/
theorem verdicts_opposed :
    ((response 402).isRecoverable = false ∧
      (response 402).toClientError.code.isRecoverable = true) ∧
    (ofMessage .unknown "reset").isRecoverable = true ∧
      (ofMessage .unknown "reset").toClientError.code.isRecoverable = false :=
  ⟨⟨rfl, rfl⟩, rfl, rfl⟩

end SourceError

end LiveFlags
