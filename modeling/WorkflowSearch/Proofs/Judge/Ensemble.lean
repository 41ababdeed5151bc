import WorkflowSearch.Judge.Ensemble
import WorkflowSearch.Proofs.Lists
import WorkflowSearch.Proofs.Results
import WorkflowSearch.Proofs.Scalar.Positive

namespace WorkflowSearch

namespace Judge

variable {α : Type} (request : JudgeRequest) (judge : Judge α)

def Casts (vote : JudgeVote α) : Prop :=
  ∃ score, judge.ask request = .ok score ∧ vote = ⟨judge.kind, score.value, score.rationale⟩

def Fails (failure : String) : Prop :=
  ∃ error, judge.ask request = .error error ∧
    failure = judge.kind.name ++ ": " ++ error.message

end Judge

theorem Aggregate.ofVotes?_eq_none_iff {α : Type} [Scalar α] {votes : List (JudgeVote α)}
    {weights : JudgeWeights α} :
    ofVotes? votes weights = none ↔ votes = [] ∨ totalWeight votes weights ≤ 0 ∨
      Scalar.isFinite (totalWeight votes weights) = false := by
  rw [ofVotes?]
  dsimp only
  split
  · next hnone => simpa using hnone
  · next hsome => simpa using hsome

namespace Ensemble

theorem of_ofConfig {α : Type} [Scalar α] {source : JudgeSource α} {config : EvaluationConfig α}
    {ensemble : Ensemble α} (h : ofConfig source config = .ok ensemble) :
    ensemble.weights = config.judgeWeights ∧
      ∀ judge ∈ ensemble.judges, ∃ kind ∈ config.judges, source kind config = .ok judge := by
  obtain ⟨judges, hjudges, h⟩ := bind_eq_ok_iff.mp h
  obtain rfl := Except.ok.inj h
  refine ⟨rfl, fun judge hjudge ↦ ?_⟩
  obtain ⟨kind, hkind, hsource⟩ := exists_of_mem_mapM hjudges hjudge
  cases hmade : source kind config with
  | error error => simp [hmade] at hsource
  | ok made =>
    rw [hmade] at hsource
    exact ⟨kind, hkind, by rw [hmade, Except.ok.inj hsource]⟩

section Votes

variable {α : Type} (ensemble : Ensemble α) (request : JudgeRequest)

def answering : Ensemble α :=
  { ensemble with judges := ensemble.judges.filter fun judge ↦ (judge.ask request).isOk }

theorem forall₂_votes : List.Forall₂ (Judge.Casts request) (ensemble.answering request).judges
    (ensemble.votes request) := by
  refine forall₂_filterMap (fun judge ↦ ?_) ensemble.judges
  cases hask : judge.ask request with
  | error error => exact .inr ⟨rfl, rfl⟩
  | ok score => exact .inl ⟨rfl, _, rfl, score, hask, rfl⟩

theorem forall₂_failures : List.Forall₂ (Judge.Fails request)
    (ensemble.judges.filter fun judge ↦ !(judge.ask request).isOk) (ensemble.failures request) := by
  refine forall₂_filterMap (fun judge ↦ ?_) ensemble.judges
  cases hask : judge.ask request with
  | error error => exact .inl ⟨rfl, _, rfl, error, hask, rfl⟩
  | ok score => exact .inr ⟨rfl, rfl⟩

theorem votes_answering : (ensemble.answering request).votes request = ensemble.votes request := by
  refine (List.filterMap_filter ..).trans (List.filterMap_congr fun judge _ ↦ ?_)
  cases judge.ask request <;> rfl

theorem failures_answering : (ensemble.answering request).failures request = [] := by
  refine List.filterMap_eq_nil_iff.mpr fun judge hjudge ↦ ?_
  obtain ⟨-, hanswers⟩ := List.mem_filter.mp hjudge
  obtain ⟨score, hscore⟩ := exists_eq_ok_of_isOk hanswers
  rw [hscore]

variable {ensemble request}

theorem answering_judges_eq_nil_iff : (ensemble.answering request).judges = [] ↔
    ∀ judge ∈ ensemble.judges, (judge.ask request).isOk = false := by
  simp [answering, List.filter_eq_nil_iff]

theorem votes_eq_nil_iff :
    ensemble.votes request = [] ↔ (ensemble.answering request).judges = [] := by
  rw [← List.length_eq_zero_iff, ← (ensemble.forall₂_votes request).length_eq,
    List.length_eq_zero_iff]

end Votes

section Weights

variable {α : Type} [Scalar α] {ensemble : Ensemble α} {request : JudgeRequest}

def totalWeight (ensemble : Ensemble α) : α :=
  Scalar.sum (ensemble.judges.map fun judge ↦ ensemble.weights.weight judge.kind)

theorem totalWeight_votes : Aggregate.totalWeight (ensemble.votes request) ensemble.weights =
    (ensemble.answering request).totalWeight := by
  have hmap {judges : List (Judge α)} {votes : List (JudgeVote α)}
      (h : List.Forall₂ (Judge.Casts request) judges votes) :
      votes.map (fun v ↦ ensemble.weights.weight v.judge) =
        judges.map fun judge ↦ ensemble.weights.weight judge.kind := by
    induction h with
    | nil => rfl
    | cons hcast _ ih =>
      obtain ⟨score, -, rfl⟩ := hcast
      rw [List.map_cons, List.map_cons, ih]
  rw [Aggregate.totalWeight, hmap (ensemble.forall₂_votes request)]
  rfl

theorem verdict_of_none
    (h : Aggregate.ofVotes? (ensemble.votes request) ensemble.weights = none) :
    ensemble.verdict request = .error ⟨ensemble.failures request⟩ := by
  rw [verdict, h]

theorem verdict_of_some {aggregate : Aggregate α}
    (h : Aggregate.ofVotes? (ensemble.votes request) ensemble.weights = some aggregate) :
    ∃ verdict, verdict.votes = ensemble.votes request ∧ verdict.aggregate = aggregate ∧
      ensemble.verdict request = .ok verdict ∧
      (ensemble.answering request).verdict request = .ok verdict := by
  have hanswering : Aggregate.ofVotes? ((ensemble.answering request).votes request)
      (ensemble.answering request).weights = some aggregate := by
    rwa [votes_answering]
  rw [verdict, verdict, h, hanswering, votes_answering]
  exact ⟨_, rfl, rfl, rfl, rfl⟩

variable [PositiveScalar α]
  (hweights : ∀ judge ∈ ensemble.judges, 0 < ensemble.weights.weight judge.kind)
include hweights

theorem totalWeight_pos (hsome : ensemble.judges ≠ []) : 0 < ensemble.totalWeight :=
  Scalar.sum_pos (mt List.map_eq_nil_iff.mp hsome) (List.forall_mem_map.mpr hweights)

theorem ofVotes?_eq_none_iff :
    Aggregate.ofVotes? (ensemble.votes request) ensemble.weights = none ↔
      (ensemble.answering request).judges = [] ∨
        Scalar.isFinite (ensemble.answering request).totalWeight = false := by
  rw [Aggregate.ofVotes?_eq_none_iff, votes_eq_nil_iff, totalWeight_votes]
  by_cases hnone : (ensemble.answering request).judges = []
  · simp [hnone]
  · have hanswering : ∀ judge ∈ (ensemble.answering request).judges,
        0 < (ensemble.answering request).weights.weight judge.kind :=
      fun judge hjudge ↦ hweights judge (List.mem_of_mem_filter hjudge)
    rw [or_iff_right (Scalar.not_nonpos_of_pos (totalWeight_pos hanswering hnone))]

/-- A judge that fails is left out, not counted as zero: if others answer, the verdict is the one
of those alone, unless the sum of their weights is too large for a number. If none answers, there is
a failure for each judge, in order. -/
theorem verdict_excludes_failures :
    ((∃ judge ∈ ensemble.judges, (judge.ask request).isOk = true) →
      if Scalar.isFinite (ensemble.answering request).totalWeight = true then
        ∃ verdict, ensemble.verdict request = .ok verdict ∧
          (ensemble.answering request).verdict request = .ok verdict ∧
          List.Forall₂ (Judge.Casts request) (ensemble.answering request).judges verdict.votes ∧
          Aggregate.ofVotes? verdict.votes ensemble.weights = some verdict.aggregate
      else
        ensemble.verdict request = .error ⟨ensemble.failures request⟩ ∧
          (ensemble.answering request).verdict request = .error ⟨[]⟩) ∧
    ((∀ judge ∈ ensemble.judges, (judge.ask request).isOk = false) →
      ∃ failures, ensemble.verdict request = .error ⟨failures⟩ ∧
        List.Forall₂ (Judge.Fails request) ensemble.judges failures) := by
  have hnone : Aggregate.ofVotes? (ensemble.votes request) ensemble.weights = none ↔
      (ensemble.answering request).judges = [] ∨
        Scalar.isFinite (ensemble.answering request).totalWeight = false :=
    ofVotes?_eq_none_iff hweights
  refine ⟨?answered, ?unanswered⟩
  case answered =>
    rintro ⟨judge, hjudge, hanswers⟩
    have hsome : (ensemble.answering request).judges ≠ [] :=
      List.ne_nil_of_mem (List.mem_filter.mpr ⟨hjudge, hanswers⟩)
    rw [or_iff_right hsome] at hnone
    split
    · next hfinite =>
      have hcounts : Aggregate.ofVotes? (ensemble.votes request) ensemble.weights ≠ none := by
        rw [Ne, hnone, hfinite]
        exact Bool.noConfusion
      obtain ⟨aggregate, haggregate⟩ := Option.ne_none_iff_exists'.mp hcounts
      obtain ⟨verdict, hvotes, hscore, hfull, hanswering⟩ := verdict_of_some haggregate
      refine ⟨verdict, hfull, hanswering, ?_, ?_⟩
      · rw [hvotes]
        exact ensemble.forall₂_votes request
      · rw [hvotes, hscore, haggregate]
    · next hinfinite =>
      have hvotes := hnone.mpr (eq_false_of_ne_true hinfinite)
      have hanswering : Aggregate.ofVotes? ((ensemble.answering request).votes request)
          (ensemble.answering request).weights = none := by
        rwa [votes_answering]
      refine ⟨verdict_of_none hvotes, ?_⟩
      rw [verdict_of_none hanswering, failures_answering]
  case unanswered =>
    intro hfail
    have hempty := answering_judges_eq_nil_iff.mpr hfail
    refine ⟨_, verdict_of_none (hnone.mpr (.inl hempty)), ?_⟩
    have hall : (ensemble.judges.filter fun judge ↦ !(judge.ask request).isOk) =
        ensemble.judges :=
      List.filter_eq_self.mpr fun judge hjudge ↦ by rw [hfail judge hjudge]; rfl
    have hfailures := ensemble.forall₂_failures request
    rwa [hall] at hfailures

end Weights

theorem timeout_left_out :
    let judges : List (Judge Double) :=
      [⟨.rule, fun _ ↦ .ok ⟨1, "match"⟩⟩, ⟨.rubric, fun _ ↦ .error (.timeout 50)⟩]
    let ensemble : Ensemble Double := ⟨judges, .default⟩
    let request : JudgeRequest := ⟨"q", "query: Person", "query: Person", false, []⟩
    (∀ judge ∈ ensemble.judges, 0 < ensemble.weights.weight judge.kind) ∧
      (∃ judge ∈ ensemble.judges, (judge.ask request).isOk = true) ∧
      Scalar.isFinite (ensemble.answering request).totalWeight = true ∧
      ∃ verdict, ensemble.verdict request = .ok verdict ∧
        (ensemble.answering request).verdict request = .ok verdict := by
  intro judges ensemble request
  have hweights : ∀ judge ∈ ensemble.judges, 0 < ensemble.weights.weight judge.kind := by
    decide +kernel
  have hanswers : ∃ judge ∈ ensemble.judges, (judge.ask request).isOk = true :=
    ⟨_, List.mem_cons_self, rfl⟩
  have hfinite : Scalar.isFinite (ensemble.answering request).totalWeight = true := by
    decide +kernel
  have hresult := (verdict_excludes_failures hweights).1 hanswers
  rw [if_pos hfinite] at hresult
  obtain ⟨verdict, hfull, hanswering, -⟩ := hresult
  exact ⟨hweights, hanswers, hfinite, verdict, hfull, hanswering⟩

/-- All weights are positive and two of three judges answer, but the sum of their weights is no
number. -/
theorem large_weights_unavailable :
    let judges : List (Judge Double) :=
      [⟨.rule, fun _ ↦ .ok ⟨0.5, "half"⟩⟩, ⟨.heuristic, fun _ ↦ .ok ⟨0.5, "half"⟩⟩,
        ⟨.rubric, fun _ ↦ .error (.api 500 "boom")⟩]
    let ensemble : Ensemble Double := ⟨judges, ⟨1.7e308, 1.7e308, 1⟩⟩
    let request : JudgeRequest := ⟨"q", "query: Person OWNS", "query: Person", false, []⟩
    (∀ judge ∈ ensemble.judges, 0 < ensemble.weights.weight judge.kind) ∧
      (∃ judge ∈ ensemble.judges, (judge.ask request).isOk = true) ∧
      ensemble.verdict request = .error ⟨["llm_rubric: API error (status 500): boom"]⟩ := by
  intro judges ensemble request
  refine ⟨by decide +kernel, ⟨_, List.mem_cons_self, rfl⟩, ?_⟩
  have hnone : Aggregate.ofVotes? (ensemble.votes request) ensemble.weights = none :=
    Aggregate.ofVotes?_eq_none_iff.mpr (.inr (.inr (by decide +kernel)))
  exact verdict_of_none hnone

end Ensemble

end WorkflowSearch
