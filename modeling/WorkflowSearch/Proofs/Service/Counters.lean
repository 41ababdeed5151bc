import WorkflowSearch.Proofs.Service.Recovery

namespace WorkflowSearch

def BreakerEntry.fails (entry : BreakerEntry) : Bool :=
  match entry.event with
  | .completion _ success => !success
  | _ => false

def BreakerEntry.completes (entry : BreakerEntry) : Bool :=
  match entry.event with
  | .completion .. => true
  | _ => false

section Counts

variable (config : BreakerConfig)

/-- How many calls have failed since the breaker entered its state, or since the last success of a
call if that came later. -/
def failuresInARow (log : BreakerLog) : ℕ :=
  ((sinceEntered config log).takeWhile (!·.succeeds)).countP (·.fails)

def completionsSinceEntered (log : BreakerLog) : ℕ :=
  (sinceEntered config log).countP (·.completes)

/-- A closed breaker counts the failures in a row, which are fewer than those that open it. -/
structure CountsFailures (log : BreakerLog) : Prop where
  state : (breakerAfter config log).state = .closed
  openedAt : (breakerAfter config log).openedAt = none
  successCount : (breakerAfter config log).successCount = 0
  failureCount : (breakerAfter config log).failureCount = failuresInARow config log
  few : failuresInARow config log < config.failureThreshold

structure CountsProbes (log : BreakerLog) : Prop where
  state : (breakerAfter config log).state = .halfOpen
  openedAt : (breakerAfter config log).openedAt ≠ none
  successCount : (breakerAfter config log).successCount = completionsSinceEntered config log
  few : completionsSinceEntered config log < config.successThreshold

structure KnowsOpening (log : BreakerLog) : Prop where
  state : (breakerAfter config log).state = .open
  successCount : (breakerAfter config log).successCount = 0
  opening : ∃ opening past, log = sinceEntered config log ++ opening :: past ∧
    Opens config opening past ∧ (breakerAfter config log).openedAt = some opening.time

end Counts

variable {config : BreakerConfig} {entry : BreakerEntry} {log : BreakerLog} {now call : ℕ}

section Equations

theorem sinceEntered_of_eq
    (h : (breakerAfter config (entry :: log)).state = (breakerAfter config log).state) :
    sinceEntered config (entry :: log) = entry :: sinceEntered config log :=
  if_pos h

theorem sinceEntered_of_ne
    (h : (breakerAfter config (entry :: log)).state ≠ (breakerAfter config log).state) :
    sinceEntered config (entry :: log) = [] :=
  if_neg h

theorem failuresInARow_of_ne
    (h : (breakerAfter config (entry :: log)).state ≠ (breakerAfter config log).state) :
    failuresInARow config (entry :: log) = 0 := by
  rw [failuresInARow, sinceEntered_of_ne h]
  rfl

theorem failuresInARow_of_not_completes
    (h : (breakerAfter config (entry :: log)).state = (breakerAfter config log).state)
    (hevent : entry.completes = false) :
    failuresInARow config (entry :: log) = failuresInARow config log := by
  obtain ⟨now, event⟩ := entry
  rw [failuresInARow, sinceEntered_of_eq h]
  cases event with
  | arrival | start => rfl
  | completion => cases hevent

theorem failuresInARow_success
    (h : (breakerAfter config (⟨now, .completion call true⟩ :: log)).state =
      (breakerAfter config log).state) :
    failuresInARow config (⟨now, .completion call true⟩ :: log) = 0 := by
  rw [failuresInARow, sinceEntered_of_eq h]
  rfl

theorem failuresInARow_failure
    (h : (breakerAfter config (⟨now, .completion call false⟩ :: log)).state =
      (breakerAfter config log).state) :
    failuresInARow config (⟨now, .completion call false⟩ :: log) =
      failuresInARow config log + 1 := by
  rw [failuresInARow, sinceEntered_of_eq h, List.takeWhile_cons_of_pos rfl,
    List.countP_cons_of_pos rfl]
  rfl

theorem completionsSinceEntered_of_ne
    (h : (breakerAfter config (entry :: log)).state ≠ (breakerAfter config log).state) :
    completionsSinceEntered config (entry :: log) = 0 := by
  rw [completionsSinceEntered, sinceEntered_of_ne h]
  rfl

theorem completionsSinceEntered_of_eq
    (h : (breakerAfter config (entry :: log)).state = (breakerAfter config log).state) :
    completionsSinceEntered config (entry :: log) =
      completionsSinceEntered config log + if entry.completes then 1 else 0 := by
  rw [completionsSinceEntered, sinceEntered_of_eq h, List.countP_cons]
  rfl

end Equations

section Steps

theorem knowsOpening_of_opens (h : Opens config entry log)
    (hsuccesses : (breakerAfter config (entry :: log)).successCount = 0) :
    KnowsOpening config (entry :: log) := by
  have hstate : (breakerAfter config (entry :: log)).state ≠ (breakerAfter config log).state := by
    rw [h.2]
    exact Ne.symm h.1
  refine ⟨h.2, hsuccesses, entry, log, ?_, h, h.openSince.2.openedAt⟩
  rw [sinceEntered_of_ne hstate, List.nil_append]

theorem KnowsOpening.stays (h : KnowsOpening config log)
    (hstate : (breakerAfter config (entry :: log)).state = .open)
    (hopened : (breakerAfter config (entry :: log)).openedAt = (breakerAfter config log).openedAt)
    (hsuccesses : (breakerAfter config (entry :: log)).successCount =
      (breakerAfter config log).successCount) :
    KnowsOpening config (entry :: log) := by
  obtain ⟨opening, past, hlog, hopens, htime⟩ := h.opening
  refine ⟨hstate, hsuccesses.trans h.successCount, opening, past, ?_, hopens, hopened.trans htime⟩
  rw [sinceEntered_of_eq (hstate.trans h.state.symm), List.cons_append, ← hlog]

theorem KnowsOpening.next (h : KnowsOpening config log) (hthreshold : 1 ≤ config.successThreshold)
    (entry : BreakerEntry) :
    KnowsOpening config (entry :: log) ∨ CountsProbes config (entry :: log) := by
  obtain ⟨now, event⟩ := entry
  cases event with
  | arrival =>
    have hafter := breakerAfter_arrival config now log
    have harrives := Breaker.arrives_arrive config now (breakerAfter config log)
    generalize (breakerAfter config log).arrive config now = answer at harrives hafter
    cases harrives with
    | admitted hstate => exact absurd h.state hstate
    | rejected hstate hearly =>
      exact .inl (h.stays (by rw [hafter, hstate]) (by rw [hafter]) (by rw [hafter]))
    | halfOpened hstate hlate =>
      obtain ⟨opening, past, -, -, htime⟩ := h.opening
      have hcompletions : completionsSinceEntered config (⟨now, .arrival⟩ :: log) = 0 :=
        completionsSinceEntered_of_ne (by simp [hafter, hstate])
      refine .inr ⟨by rw [hafter], ?_, ?_, ?_⟩
      · simp [hafter, htime]
      · rw [hafter, hcompletions]
      · rw [hcompletions]
        exact hthreshold
  | start call => exact .inl (h.stays h.state rfl rfl)
  | completion call success =>
    obtain ⟨breaker, hafter, hcompletes⟩ := exists_completes config now call success log
    have hopen := h.state
    cases hcompletes with
    | succeeded hstate =>
      exact .inl (h.stays (by rw [hafter, hopen]) (by rw [hafter]) (by rw [hafter]))
    | failed hstate hfew =>
      exact .inl (h.stays (by rw [hafter, hopen]) (by rw [hafter]) (by rw [hafter]))
    | counted hstate hfew => simp [hopen] at hstate
    | closed hstate henough => simp [hopen] at hstate
    | opened hstate henough => simp [hopen] at hstate
    | reopened hstate => simp [hopen] at hstate

theorem countsFailures_of_initial (h : breakerAfter config (entry :: log) = .initial)
    (hbefore : (breakerAfter config log).state ≠ .closed)
    (hthreshold : 1 ≤ config.failureThreshold) : CountsFailures config (entry :: log) := by
  have hfailures : failuresInARow config (entry :: log) = 0 :=
    failuresInARow_of_ne (by rw [h]; exact Ne.symm hbefore)
  refine ⟨by rw [h]; rfl, by rw [h]; rfl, by rw [h]; rfl, ?_, ?_⟩
  · rw [h, hfailures]
    rfl
  · rw [hfailures]
    exact hthreshold

theorem CountsProbes.stays (h : CountsProbes config log) {successes : ℕ}
    (hafter : breakerAfter config (entry :: log) =
      { breakerAfter config log with successCount := successes })
    (hcount : successes = completionsSinceEntered config (entry :: log))
    (hfew : successes < config.successThreshold) : CountsProbes config (entry :: log) := by
  refine ⟨by rw [hafter, h.state], ?_, by rw [hafter, hcount], hcount ▸ hfew⟩
  rw [hafter]
  exact h.openedAt

theorem CountsProbes.next (h : CountsProbes config log) (hthreshold : 1 ≤ config.failureThreshold)
    (entry : BreakerEntry) :
    CountsProbes config (entry :: log) ∨ CountsFailures config (entry :: log) ∨
      KnowsOpening config (entry :: log) := by
  have hhalf := h.state
  obtain ⟨now, event⟩ := entry
  cases event with
  | arrival =>
    have hafter : breakerAfter config (⟨now, .arrival⟩ :: log) = breakerAfter config log := by
      rw [breakerAfter_arrival, Breaker.arrive_of_ne_open (by simp [hhalf])]
    have hcompletions : completionsSinceEntered config (⟨now, .arrival⟩ :: log) =
        completionsSinceEntered config log := completionsSinceEntered_of_eq (by rw [hafter])
    exact .inl (h.stays hafter (h.successCount.trans hcompletions.symm) (h.successCount ▸ h.few))
  | start call =>
    have hcompletions : completionsSinceEntered config (⟨now, .start call⟩ :: log) =
        completionsSinceEntered config log := completionsSinceEntered_of_eq rfl
    exact .inl (h.stays rfl (h.successCount.trans hcompletions.symm) (h.successCount ▸ h.few))
  | completion call success =>
    obtain ⟨breaker, hafter, hcompletes⟩ := exists_completes config now call success log
    cases hcompletes with
    | succeeded hstate => exact absurd hhalf hstate
    | failed hstate hfew => exact absurd hhalf hstate
    | opened hstate henough => simp [hhalf] at hstate
    | reopened hstate =>
      exact .inr (.inr (knowsOpening_of_opens ⟨by simp [hhalf], by rw [hafter]⟩ (by rw [hafter])))
    | closed hstate henough =>
      exact .inr (.inl (countsFailures_of_initial hafter (by simp [hhalf]) hthreshold))
    | counted hstate hfew =>
      have hcompletions : completionsSinceEntered config (⟨now, .completion call true⟩ :: log) =
          completionsSinceEntered config log + 1 :=
        completionsSinceEntered_of_eq (by rw [hafter])
      exact .inl (h.stays hafter (by rw [hcompletions, h.successCount]) hfew)

theorem CountsFailures.stays (h : CountsFailures config log) {failures : ℕ}
    (hafter : breakerAfter config (entry :: log) =
      { breakerAfter config log with failureCount := failures })
    (hcount : failures = failuresInARow config (entry :: log))
    (hfew : failures < config.failureThreshold) : CountsFailures config (entry :: log) := by
  refine ⟨?_, ?_, ?_, by rw [hafter, hcount], hcount ▸ hfew⟩
  · rw [hafter, h.state]
  · rw [hafter, h.openedAt]
  · rw [hafter, h.successCount]

theorem CountsFailures.next (h : CountsFailures config log)
    (hthreshold : 1 ≤ config.failureThreshold) (entry : BreakerEntry) :
    (CountsFailures config (entry :: log) ∧
        ¬ (entry.fails = true ∧ failuresInARow config log + 1 = config.failureThreshold)) ∨
      (KnowsOpening config (entry :: log) ∧
        entry.fails = true ∧ failuresInARow config log + 1 = config.failureThreshold) := by
  have hclosed := h.state
  have hcount := h.failureCount
  have hfewer := h.few
  obtain ⟨now, event⟩ := entry
  cases event with
  | arrival =>
    have hafter : breakerAfter config (⟨now, .arrival⟩ :: log) = breakerAfter config log := by
      rw [breakerAfter_arrival, Breaker.arrive_of_ne_open (by simp [hclosed])]
    have hfailures : failuresInARow config (⟨now, .arrival⟩ :: log) = failuresInARow config log :=
      failuresInARow_of_not_completes (by rw [hafter]) rfl
    exact .inl ⟨h.stays hafter (hcount.trans hfailures.symm) (hcount ▸ hfewer),
      by simp [BreakerEntry.fails]⟩
  | start call =>
    have hfailures : failuresInARow config (⟨now, .start call⟩ :: log) =
        failuresInARow config log := failuresInARow_of_not_completes rfl rfl
    exact .inl ⟨h.stays rfl (hcount.trans hfailures.symm) (hcount ▸ hfewer),
      by simp [BreakerEntry.fails]⟩
  | completion call success =>
    obtain ⟨breaker, hafter, hcompletes⟩ := exists_completes config now call success log
    cases hcompletes with
    | succeeded hstate =>
      have hfailures : failuresInARow config (⟨now, .completion call true⟩ :: log) = 0 :=
        failuresInARow_success (by rw [hafter])
      exact .inl ⟨h.stays hafter hfailures.symm hthreshold, by simp [BreakerEntry.fails]⟩
    | failed hstate hfew =>
      have hstill := hfew hclosed
      have hfailures : failuresInARow config (⟨now, .completion call false⟩ :: log) =
          failuresInARow config log + 1 := failuresInARow_failure (by rw [hafter])
      exact .inl ⟨h.stays hafter (by rw [hfailures, hcount]) hstill, by omega⟩
    | opened hstate henough =>
      refine .inr ⟨knowsOpening_of_opens ⟨by simp [hclosed], by rw [hafter]⟩ ?_, rfl, by omega⟩
      rw [hafter, h.successCount]
    | counted hstate hfew => simp [hclosed] at hstate
    | closed hstate henough => simp [hclosed] at hstate
    | reopened hstate => simp [hclosed] at hstate

end Steps

theorem breakerAfter_remembers (hfailures : 1 ≤ config.failureThreshold)
    (hsuccesses : 1 ≤ config.successThreshold) (log : BreakerLog) :
    CountsFailures config log ∨ CountsProbes config log ∨ KnowsOpening config log := by
  induction log with
  | nil => exact .inl ⟨rfl, rfl, rfl, rfl, hfailures⟩
  | cons entry log ih =>
    obtain hclosed | hhalf | hopen := ih
    · obtain ⟨hclosed, -⟩ | ⟨hopen, -⟩ := hclosed.next hfailures entry
      · exact .inl hclosed
      · exact .inr (.inr hopen)
    · obtain hhalf | hclosed | hopen := hhalf.next hfailures entry
      · exact .inr (.inl hhalf)
      · exact .inl hclosed
      · exact .inr (.inr hopen)
    · obtain hopen | hhalf := hopen.next hsuccesses entry
      · exact .inr (.inr hopen)
      · exact .inr (.inl hhalf)

/-- The counters of a breaker after any events. Closed, it has no time of opening and has counted
the failures in a row; half-open, it has one and has counted the calls that ended since; open, its
time is that of the event that opened it. So a closed breaker opens exactly with the last of the
failures in a row that are wanted, and only a half-open one closes. -/
theorem breaker_remembers (hfailures : 1 ≤ config.failureThreshold)
    (hsuccesses : 1 ≤ config.successThreshold) (entry : BreakerEntry) (log : BreakerLog) :
    let before := breakerAfter config log
    let after := breakerAfter config (entry :: log)
    (before.state = .closed → before.openedAt = none ∧ before.successCount = 0 ∧
        before.failureCount = failuresInARow config log ∧
        before.failureCount < config.failureThreshold) ∧
      (before.state = .halfOpen → before.openedAt ≠ none ∧
        before.successCount = completionsSinceEntered config log ∧
        before.successCount < config.successThreshold) ∧
      (before.state = .open → before.successCount = 0 ∧
        ∃ opening past, log = sinceEntered config log ++ opening :: past ∧
          Opens config opening past ∧ before.openedAt = some opening.time) ∧
      (before.state = .closed → (after.state = .open ↔
        entry.fails = true ∧ failuresInARow config log + 1 = config.failureThreshold)) ∧
      (after.state = .closed → before.state = .closed ∨ before.state = .halfOpen) := by
  intro before after
  obtain h | h | h := breakerAfter_remembers hfailures hsuccesses log
  · have hclosed : before.state = .closed := h.state
    refine ⟨fun _ ↦ ⟨h.openedAt, h.successCount, h.failureCount, h.failureCount ▸ h.few⟩,
      by simp [hclosed], by simp [hclosed], fun _ ↦ ?_, fun _ ↦ .inl hclosed⟩
    obtain ⟨hstays, hother⟩ | ⟨hopens, hlast⟩ := h.next hfailures entry
    · have hafter : after.state = .closed := hstays.state
      simp [hafter, hother]
    · have hafter : after.state = .open := hopens.state
      simp [hafter, hlast]
  · have hhalf : before.state = .halfOpen := h.state
    exact ⟨by simp [hhalf], fun _ ↦ ⟨h.openedAt, h.successCount, h.successCount ▸ h.few⟩,
      by simp [hhalf], by simp [hhalf], fun _ ↦ .inr hhalf⟩
  · have hopen : before.state = .open := h.state
    refine ⟨by simp [hopen], by simp [hopen], fun _ ↦ ⟨h.successCount, h.opening⟩,
      by simp [hopen], fun hclosed ↦ ?_⟩
    obtain hnext | hnext := h.next hsuccesses entry
    · cases hnext.state.symm.trans hclosed
    · cases hnext.state.symm.trans hclosed

/-- Three calls overlap. The second failure opens the breaker, and when another call has turned it
half-open, the late success of the third is counted. -/
theorem lateSuccess_remembered :
    let config : BreakerConfig := ⟨2, 50, 2⟩
    let past : BreakerLog := [⟨3, .completion 0 false⟩, ⟨2, .start 2⟩, ⟨2, .start 1⟩, ⟨2, .start 0⟩,
      ⟨2, .arrival⟩, ⟨1, .arrival⟩, ⟨0, .arrival⟩]
    let opening : BreakerEntry := ⟨4, .completion 1 false⟩
    let log : BreakerLog := ⟨50006, .completion 2 true⟩ :: ⟨50005, .arrival⟩ :: opening :: past
    Interleaving config log ∧ (breakerAfter config past).failureCount = 1 ∧
      (breakerAfter config (opening :: past)).state = .open ∧
      (breakerAfter config (opening :: past)).openedAt = some 4 ∧
      (breakerAfter config log).state = .halfOpen ∧ (breakerAfter config log).successCount = 1 := by
  intro config past opening log
  have harrived : Interleaving config [⟨2, .arrival⟩, ⟨1, .arrival⟩, ⟨0, .arrival⟩] :=
    ((Interleaving.nil.arrival (by decide)).arrival (by decide)).arrival (by decide)
  have hstarted : Interleaving config
      [⟨2, .start 1⟩, ⟨2, .start 0⟩, ⟨2, .arrival⟩, ⟨1, .arrival⟩, ⟨0, .arrival⟩] :=
    (harrived.start (by decide) (by decide) (by decide)).start (by decide) (by decide) (by decide)
  have hpast : Interleaving config past :=
    (hstarted.start (by decide) (by decide) (by decide)).completion false (by decide) (by decide)
      (by decide)
  have hopening : Interleaving config (opening :: past) :=
    hpast.completion false (by decide) (by decide) (by decide)
  have hlog : Interleaving config log :=
    (hopening.arrival (by decide)).completion true (by decide) (by decide +kernel) (by decide)
  obtain ⟨hclosed, -, -, hopens, -⟩ :=
    @breaker_remembers config (by decide) (by decide) opening past
  obtain ⟨-, -, hopen, -⟩ :=
    @breaker_remembers config (by decide) (by decide) ⟨50005, .arrival⟩ (opening :: past)
  obtain ⟨-, hhalf, -⟩ :=
    @breaker_remembers config (by decide) (by decide) ⟨50007, .arrival⟩ log
  have hstate : (breakerAfter config log).state = .halfOpen := by decide +kernel
  have hfailed : (breakerAfter config (opening :: past)).state = .open :=
    (hopens (by decide)).mpr ⟨rfl, by decide⟩
  obtain ⟨-, opening', past', hsplit, -, htime⟩ := hopen hfailed
  obtain ⟨rfl, -⟩ : opening = opening' ∧ past = past' := List.cons.inj hsplit
  exact ⟨hlog, (hclosed (by decide)).2.2.1.trans (by decide), hfailed, htime, hstate,
    (hhalf hstate).2.1.trans (by decide +kernel)⟩

end WorkflowSearch
