import WorkflowSearch.Proofs.Service.Interleaving
import WorkflowSearch.Service.Remote

namespace WorkflowSearch

variable {config : BreakerConfig} {entry opening : BreakerEntry} {recent past log : BreakerLog}
  {time now : ℕ} {breaker : Breaker}

namespace Breaker

structure OpenSince (time : ℕ) (breaker : Breaker) : Prop where
  state : breaker.state = .open
  openedAt : breaker.openedAt = some time

theorem OpenSince.arrive (h : breaker.OpenSince time) (htime : time ≤ now)
    (hwindow : now < time + config.resetTime) :
    breaker.arrive config now = (.rejected (time + config.resetTime - now), breaker) := by
  have helapsed : (breaker.openedAt.map (now - ·)).getD 0 = now - time := by
    rw [h.openedAt]
    rfl
  have hanswer := arrives_arrive config now breaker
  generalize breaker.arrive config now = answer at hanswer ⊢
  cases hanswer with
  | admitted hstate => exact absurd h.state hstate
  | rejected hstate hearly =>
    rw [helapsed]
    congr 2
    omega
  | halfOpened hstate hlate => omega

theorem OpenSince.complete (h : breaker.OpenSince time) (config : BreakerConfig) (now : ℕ)
    (success : Bool) : (breaker.complete config now success).OpenSince time := by
  obtain ⟨hstate, hopened⟩ := complete_of_open h.state config now success
  exact ⟨hstate, hopened.trans h.openedAt⟩

end Breaker

theorem Opens.openSince (h : Opens config opening past) :
    (∃ call, opening.event = .completion call false) ∧
      (breakerAfter config (opening :: past)).OpenSince opening.time := by
  obtain ⟨hbefore, hafter⟩ := h
  obtain ⟨time, event⟩ := opening
  cases event with
  | arrival =>
    rw [breakerAfter_arrival] at hafter
    have hanswer := Breaker.arrives_arrive config time (breakerAfter config past)
    generalize (breakerAfter config past).arrive config time = answer at hanswer hafter
    cases hanswer with
    | admitted hstate => exact absurd hafter hstate
    | rejected hstate hearly => exact absurd hstate hbefore
    | halfOpened hstate hlate => exact absurd hstate hbefore
  | start call => exact absurd hafter hbefore
  | completion call success =>
    rw [breakerAfter_completion] at hafter ⊢
    have hcompletes := Breaker.completes_complete config time success (breakerAfter config past)
    generalize (breakerAfter config past).complete config time success = breaker
      at hcompletes hafter ⊢
    cases hcompletes with
    | succeeded hstate => exact absurd hafter hbefore
    | counted hstate hfew => exact absurd hafter hbefore
    | closed hstate henough => cases hafter
    | failed hstate hfew => exact absurd hafter hbefore
    | opened hstate henough => exact ⟨⟨call, rfl⟩, rfl, rfl⟩
    | reopened hstate => exact ⟨⟨call, rfl⟩, rfl, rfl⟩

/-- While the window lasts, the breaker stays open since the same time, and no call is admitted. -/
theorem Opens.window (hopens : Opens config opening past)
    (h : Interleaving config (recent ++ opening :: past))
    (hwindow : ∀ entry ∈ recent, entry.time < opening.time + config.resetTime) :
    (breakerAfter config (recent ++ opening :: past)).OpenSince opening.time ∧
      admittedCalls config (recent ++ opening :: past) = admittedCalls config past := by
  induction recent with
  | nil =>
    obtain ⟨⟨call, hevent⟩, hsince⟩ := hopens.openSince
    obtain ⟨time, event⟩ := opening
    obtain rfl : event = .completion call false := hevent
    exact ⟨hsince, rfl⟩
  | cons entry recent ih =>
    obtain ⟨hentry, hrecent⟩ := List.forall_mem_cons.mp hwindow
    obtain ⟨hsince, hadmitted⟩ := ih h.tail hrecent
    have htime : opening.time ≤ entry.time := h.time_le opening (by simp)
    obtain ⟨now, event⟩ := entry
    cases event with
    | arrival =>
      have harrive := hsince.arrive htime hentry
      rw [List.cons_append, breakerAfter_arrival, harrive, admittedCalls, harrive]
      exact ⟨hsince, hadmitted⟩
    | start call => exact ⟨hsince, hadmitted⟩
    | completion call success => exact ⟨hsince.complete config now success, hadmitted⟩

theorem RemoteService.send_of_rejected {β : Type} (service : RemoteService) (request : Http.Request)
    (decode : Json → Option β) {state : RemoteState} {remaining : ℕ}
    (h : state.breaker.arrive (.ofBackend service.config) now =
      (.rejected remaining, state.breaker)) :
    service.send now request decode state =
      (.error (.circuitOpen (remaining / 1000)), state) := by
  simp only [send, h, Admission.error?]

theorem RemoteService.send_in_window {β : Type} (service : RemoteService) (request : Http.Request)
    (decode : Json → Option β) {state : RemoteState}
    (hsince : state.breaker.OpenSince time) (htime : time ≤ now)
    (hwindow : now < time + (BreakerConfig.ofBackend service.config).resetTime) :
    service.send now request decode state =
      (.error (.circuitOpen
        ((time + (BreakerConfig.ofBackend service.config).resetTime - now) / 1000)), state) :=
  service.send_of_rejected request decode (hsince.arrive htime hwindow)

/-- From the event with which a breaker opens until the reset time has passed: it is open since
then, no call is admitted, a call that arrives is told the time that is left and changes nothing, an
operation that starts is that of a call that was admitted before and had not started, and the end of
a call that was admitted before leaves the breaker open since the same time. -/
theorem breaker_fails_fast (h : Interleaving config (entry :: (recent ++ opening :: past)))
    (hopens : Opens config opening past)
    (hwindow : entry.time < opening.time + config.resetTime) :
    let log := recent ++ opening :: past
    let before := breakerAfter config log
    let after := breakerAfter config (entry :: log)
    (before.state = .open ∧ before.openedAt = some opening.time) ∧
      admittedCalls config (entry :: log) = admittedCalls config past ∧
      (∀ call, entry.event = .start call →
        call ∈ admittedCalls config past ∧ call ∉ startedCalls past) ∧
      (entry.event = .arrival → after = before ∧ before.arrive config entry.time =
        (.rejected (opening.time + config.resetTime - entry.time), before)) ∧
      (∀ call success, entry.event = .completion call success → call ∈ admittedCalls config past) ∧
      after.state = .open ∧ after.openedAt = some opening.time := by
  intro log before after
  have hearlier : ∀ earlier ∈ recent, earlier.time < opening.time + config.resetTime := by
    intro earlier hmem
    exact Nat.lt_of_le_of_lt (h.time_le earlier (List.mem_append_left _ hmem)) hwindow
  obtain ⟨hbefore, hadmitted⟩ := hopens.window h.tail hearlier
  have h' : Interleaving config ((entry :: recent) ++ opening :: past) := h
  obtain ⟨hafter, hnone⟩ := hopens.window h' (List.forall_mem_cons.mpr ⟨hwindow, hearlier⟩)
  have htime : opening.time ≤ entry.time := h.time_le opening (by simp)
  refine ⟨⟨hbefore.state, hbefore.openedAt⟩, hnone, ?_, fun harrival ↦ ?_, ?_, hafter.state,
    hafter.openedAt⟩
  · rintro call hstart
    cases h with
    | arrival | completion => cases hstart
    | start _ _ hcall hwaiting =>
      obtain rfl := BreakerEvent.start.inj hstart
      have hearly : past.Sublist log :=
        (List.sublist_cons_self opening past).trans (List.sublist_append_right recent _)
      exact ⟨hadmitted ▸ hcall, fun hstarted ↦ hwaiting ((hearly.filterMap _).subset hstarted)⟩
  · have harrive := hbefore.arrive htime hwindow
    obtain ⟨now, event⟩ := entry
    obtain rfl : event = .arrival := harrival
    exact ⟨congrArg Prod.snd harrive, harrive⟩
  · rintro call success hcompletion
    cases h with
    | arrival | start => cases hcompletion
    | completion _ h _ hcall =>
      obtain ⟨rfl, -⟩ := BreakerEvent.completion.inj hcompletion
      exact hadmitted ▸ h.startedCalls_subset hcall

/-- Two calls overlap. The first fails and opens the breaker; the operation of the second starts
late and succeeds, and a third call is rejected. -/
theorem lateSuccess_fails_fast :
    let config : BreakerConfig := ⟨1, 30, 1⟩
    let past : BreakerLog := [⟨6, .start 0⟩, ⟨5, .arrival⟩, ⟨0, .arrival⟩]
    let opening : BreakerEntry := ⟨10, .completion 0 false⟩
    let log : BreakerLog := ⟨20, .completion 1 true⟩ :: ⟨15, .start 1⟩ :: opening :: past
    Opens config opening past ∧ Interleaving config (⟨100, .arrival⟩ :: log) ∧
      admittedCalls config past = [1, 0] ∧ admittedCalls config (⟨100, .arrival⟩ :: log) = [1, 0] ∧
      (breakerAfter config log).arrive config 100 = (.rejected 29910, breakerAfter config log) ∧
      1 ∈ admittedCalls config past ∧ 1 ∉ startedCalls past := by
  intro config past opening log
  have hpast : Interleaving config past :=
    ((Interleaving.nil.arrival (by decide)).arrival (by decide)).start (by decide) (by decide)
      (by decide)
  have hfailed : Interleaving config (opening :: past) :=
    hpast.completion false (by decide) (by decide) (by decide)
  have hstarted : Interleaving config (⟨15, .start 1⟩ :: opening :: past) :=
    hfailed.start (by decide) (by decide) (by decide)
  have hlog : Interleaving config log :=
    hstarted.completion true (by decide) (by decide) (by decide)
  have hopens : Opens config opening past := by decide
  have hthird : Interleaving config
      (⟨100, .arrival⟩ :: ([⟨20, .completion 1 true⟩, ⟨15, .start 1⟩] ++ opening :: past)) :=
    hlog.arrival (by decide)
  have hleft : 10 + config.resetTime - 100 = 29910 := by decide +kernel
  obtain ⟨-, hnone, -, hrejected, -⟩ := breaker_fails_fast hthird hopens (by decide +kernel)
  obtain ⟨-, -, hlate, -⟩ :=
    @breaker_fails_fast config ⟨15, .start 1⟩ opening [] past hstarted hopens (by decide +kernel)
  exact ⟨hopens, hthird, by decide, hnone.trans (by decide), hleft ▸ (hrejected rfl).2,
    hlate 1 rfl⟩

/-- Of two calls that were admitted, the second fails and opens the breaker, and the operation of the
first starts after that, in the window. A call around one that fails ends in the same way. -/
theorem lateStart_in_window :
    let config : BreakerConfig := ⟨1, 30000, 1⟩
    let past : BreakerLog := [⟨0, .start 1⟩, ⟨0, .arrival⟩, ⟨0, .arrival⟩]
    let opening : BreakerEntry := ⟨0, .completion 1 false⟩
    let start : BreakerEntry := ⟨5, .start 0⟩
    let log : BreakerLog := ⟨6, .completion 0 true⟩ :: start :: opening :: past
    Opens config opening past ∧ Interleaving config log ∧
      opening.time ≤ start.time ∧ start.time < opening.time + config.resetTime ∧
      Breaker.initial.make config 0 (.call true [.call false []]) =
        (.completed true, breakerAfter config log) := by
  intro config past opening start log
  have hpast : Interleaving config past :=
    ((Interleaving.nil.arrival (by decide)).arrival (by decide)).start (by decide) (by decide)
      (by decide)
  have hopened : Interleaving config (opening :: past) :=
    hpast.completion false (by decide) (by decide) (by decide)
  have hstarted : Interleaving config (start :: opening :: past) :=
    hopened.start (by decide) (by decide) (by decide)
  exact ⟨by decide, hstarted.completion true (by decide) (by decide) (by decide), by decide,
    by decide +kernel, by decide +kernel⟩

end WorkflowSearch
