import ClientGen.Call.Retry
import ClientGen.Proofs.Call.Shape

namespace ClientGen

open Schema CallShape

def CallShape.isStream : CallShape → Bool
  | .serverStreaming | .clientStreaming | .bidiStreaming => true
  | .unary | .paged _ | .longRunning => false

theorem CallShape.isStream_ofStreaming (method : Method) :
    (ofStreaming method).isStream = (method.clientStreaming || method.serverStreaming) := by
  unfold ofStreaming
  cases method.clientStreaming <;> cases method.serverStreaming <;> rfl

def Schema.Method.BindsGet (method : Method) : Prop :=
  ∃ rule, method.http = some rule ∧ rule.verb = .get

namespace RetryPolicy

variable {method : Method} {input output : Message} {shape : CallShape}

theorem isRetryable_iff :
    isRetryable method = true ↔
      method.BindsGet ∧ method.clientStreaming = false ∧ method.serverStreaming = false := by
  rw [isRetryable, Bool.and_eq_true, Bool.and_eq_true, Option.any_eq_true, and_comm]
  simp [Method.BindsGet, HttpVerb.isRead]

/-- A call is tried again just if it reads and its shape is no stream. Paged and long-running calls
have their shape whatever their streaming flags are; of them only those without a flag are tried
again. -/
theorem isRetryable_iff_of_classify (h : classify method input output = .ok shape) :
    isRetryable method = true ↔
      method.BindsGet ∧ shape.isStream = false ∧
        (shape = .longRunning ∨ (∃ field, shape = .paged field) →
          method.clientStreaming = false ∧ method.serverStreaming = false) := by
  rw [isRetryable_iff]
  refine and_congr_right fun _ => ?_
  cases classify_eq_iff.mp h with
  | longRunning => simp [isStream]
  | paged => simp [isStream]
  | streaming _ _ hs =>
    subst hs
    rw [isStream_ofStreaming, Bool.or_eq_false_iff]
    exact ⟨fun hflags => ⟨hflags, fun _ => hflags⟩, fun hflags => hflags.1⟩

theorem isRetryable_iff_of_classify_books :
    classify listBooks listBooksRequest listBooksResponse = .ok (.paged booksField) ∧
      isRetryable listBooks = true := by
  have hshape : classify listBooks listBooksRequest listBooksResponse = .ok (.paged booksField) :=
    rfl
  refine ⟨hshape, (isRetryable_iff_of_classify hshape).mpr ⟨⟨_, rfl, rfl⟩, rfl, ?_⟩⟩
  exact fun _ => ⟨rfl, rfl⟩

def watchBooks : Method :=
  { listBooks with name := "WatchBooks", serverStreaming := true }

def watchOperation : Method where
  name := "WatchOperation"
  inputType := ".library.WatchOperationRequest"
  outputType := operationType
  serverStreaming := true
  http := some ⟨.get, "/v1/operations"⟩

/-- Calls that read and whose shape is no stream, and yet they are not tried again. -/
theorem not_retried_by_shape_alone :
    (classify watchBooks listBooksRequest listBooksResponse = .ok (.paged booksField) ∧
      ¬(isRetryable watchBooks = true ↔
        watchBooks.BindsGet ∧ (CallShape.paged booksField).isStream = false)) ∧
      classify watchOperation {} {} = .ok .longRunning ∧
        ¬(isRetryable watchOperation = true ↔
          watchOperation.BindsGet ∧ CallShape.longRunning.isStream = false) := by
  refine ⟨⟨rfl, fun h => ?_⟩, rfl, fun h => ?_⟩
  · exact absurd (h.mpr ⟨⟨_, rfl, rfl⟩, rfl⟩) (by decide)
  · exact absurd (h.mpr ⟨⟨_, rfl, rfl⟩, rfl⟩) (by decide)

end RetryPolicy

end ClientGen
