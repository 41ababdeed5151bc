import WorkflowSearch.Proofs.Evaluation.Calls

namespace WorkflowSearch

variable {α : Type}

def Service.AnswersAlike (service service' : Service α) (earlier : History) : Call → Prop
  | .schema => service'.schema earlier = service.schema earlier
  | .catalog => service'.catalog earlier = service.catalog earlier
  | .execute blueprint case =>
    service'.execute earlier blueprint case = service.execute earlier blueprint case

/-- The second service repeats the answers of the first one to the calls of a history. -/
def Service.Repeats (service service' : Service α) (history : History) : Prop :=
  ∀ call earlier, call :: earlier <:+ history → service.AnswersAlike service' earlier call

theorem Service.Repeats.of_suffix {service service' : Service α} {before after : History}
    (h : service.Repeats service' after) (hsuffix : before <:+ after) :
    service.Repeats service' before :=
  fun call earlier hcall ↦ h call earlier (hcall.trans hsuffix)

theorem History.cons_repeated_suffix (history : History) (call : Call) {number times : ℕ}
    (hlt : number < times) :
    call :: history.repeated call number <:+ history.repeated call times := by
  refine ⟨List.replicate (times - (number + 1)) call, ?_⟩
  rw [repeated, repeated, ← List.cons_append, ← List.replicate_succ, ← List.append_assoc,
    ← List.replicate_add, Nat.sub_add_cancel hlt]

variable [Scalar α]

namespace Evaluator

variable (evaluator : Evaluator α) (blueprint : Blueprint)

def withService (service : Service α) : Evaluator α :=
  { evaluator with service }

theorem history_suffix_runCases (cases : List Case) (history : History) :
    history <:+ (evaluator.runCases blueprint cases history).2 :=
  ⟨_, (evaluator.runCases_spec blueprint cases history).1.symm⟩

theorem history_suffix_evaluateCases (cases : List Case) (split : Split) (history : History) :
    history <:+ (evaluator.evaluateCases blueprint cases split history).2 :=
  evaluator.history_suffix_runCases blueprint cases history

variable {evaluator blueprint} {service : Service α}

theorem evaluateCase_withService {case : Case} {history : History}
    (h : evaluator.service.Repeats service (evaluator.evaluateCase blueprint case history).2) :
    (evaluator.withService service).evaluateCase blueprint case history =
      evaluator.evaluateCase blueprint case history := by
  refine evaluateCase_congr rfl (fun number hlt ↦ ?_) fun _ _ ↦ rfl
  exact h (.execute blueprint case) _ (history.cons_repeated_suffix _ hlt)

theorem runCases_withService {cases : List Case} {history : History}
    (h : evaluator.service.Repeats service (evaluator.runCases blueprint cases history).2) :
    (evaluator.withService service).runCases blueprint cases history =
      evaluator.runCases blueprint cases history := by
  induction cases generalizing history with
  | nil => rfl
  | cons case cases ih =>
    have hsuffix := evaluator.history_suffix_runCases blueprint cases
      (evaluator.evaluateCase blueprint case history).2
    have hfirst := evaluateCase_withService (h.of_suffix hsuffix)
    have hrest : (evaluator.withService service).runCases blueprint cases
        (evaluator.evaluateCase blueprint case history).2 =
          evaluator.runCases blueprint cases (evaluator.evaluateCase blueprint case history).2 :=
      ih h
    simp only [runCases, hfirst, hrest]

theorem evaluateCases_withService {cases : List Case} {split : Split} {history : History}
    (h : evaluator.service.Repeats service
      (evaluator.evaluateCases blueprint cases split history).2) :
    (evaluator.withService service).evaluateCases blueprint cases split history =
      evaluator.evaluateCases blueprint cases split history := by
  rw [evaluateCases, evaluateCases, runCases_withService h]
  rfl

end Evaluator

end WorkflowSearch
