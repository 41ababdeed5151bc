import Mathlib.Data.List.Basic
import WorkflowSearch.Proofs.Service.Window

namespace WorkflowSearch

def BreakerEntry.succeeds (entry : BreakerEntry) : Bool :=
  match entry.event with
  | .completion _ success => success
  | _ => false

section Calls

variable (config : BreakerConfig)

/-- The calls that were admitted before the breaker last opened. -/
def lateCalls : BreakerLog → List ℕ
  | [] => []
  | entry :: past =>
    if Opens config entry past then admittedCalls config past else lateCalls past

/-- The calls that were admitted while the breaker was half-open, since it last opened. The first of
them turned it half-open. -/
def probes : BreakerLog → List ℕ
  | [] => []
  | entry :: past =>
    if Opens config entry past then []
    else if entry.event = .arrival ∧ (breakerAfter config (entry :: past)).state = .halfOpen then
      past.length :: probes past
    else probes past

def probeSuccesses : BreakerLog → ℕ
  | [] => 0
  | entry :: past =>
    if Opens config entry past then 0
    else
      match entry.event with
      | .completion call success =>
        if success ∧ call ∈ probes config past then probeSuccesses past + 1
        else probeSuccesses past
      | _ => probeSuccesses past

def sinceEntered : BreakerLog → BreakerLog
  | [] => []
  | entry :: past =>
    if (breakerAfter config (entry :: past)).state = (breakerAfter config past).state then
      entry :: sinceEntered past
    else []

def successesSinceEntered (log : BreakerLog) : ℕ :=
  (sinceEntered config log).countP (·.succeeds)

/-- Late calls end only while the breaker is open. -/
def Timely : BreakerLog → Prop
  | [] => True
  | entry :: past =>
    (∀ call ∈ completedCalls [entry], call ∈ lateCalls config past →
      (breakerAfter config past).state = .open) ∧ Timely past

instance decidableTimely : (log : BreakerLog) → Decidable (Timely config log)
  | [] => isTrue trivial
  | _ :: past =>
    have := decidableTimely past
    inferInstanceAs (Decidable (_ ∧ _))

end Calls

variable {config : BreakerConfig} {entry : BreakerEntry} {log : BreakerLog} {now call : ℕ}

theorem not_opens_arrival : ¬ Opens config ⟨now, .arrival⟩ log := by
  intro h
  obtain ⟨⟨call, hevent⟩, -⟩ := h.openSince
  cases hevent

theorem not_opens_start : ¬ Opens config ⟨now, .start call⟩ log := fun h ↦ h.1 h.2

theorem probes_subset_admittedCalls (config : BreakerConfig) (log : BreakerLog) :
    probes config log ⊆ admittedCalls config log := by
  induction log with
  | nil => exact List.Subset.refl _
  | cons entry past ih =>
    have hpast := List.Subset.trans ih (admittedCalls_subset_cons entry past)
    rw [probes]
    split
    · exact List.nil_subset _
    · split
      · next hprobe =>
        obtain ⟨now, event⟩ := entry
        obtain ⟨hevent, hhalf⟩ := hprobe
        obtain rfl : event = .arrival := hevent
        refine List.cons_subset.mpr ⟨?_, hpast⟩
        have hadmitted : ((breakerAfter config past).arrive config now).1 = .admitted :=
          Breaker.admitted_of_ne_open (by simp [← breakerAfter_arrival, hhalf])
        rw [admittedCalls, if_pos hadmitted]
        exact List.mem_cons_self
      · exact hpast

section Equations

theorem lateCalls_of_not_opens (h : ¬ Opens config entry log) :
    lateCalls config (entry :: log) = lateCalls config log :=
  if_neg h

theorem probes_of_ne_halfOpen (h : ¬ Opens config entry log)
    (hstate : (breakerAfter config (entry :: log)).state ≠ .halfOpen) :
    probes config (entry :: log) = probes config log := by
  rw [probes, if_neg h, if_neg fun hboth ↦ hstate hboth.2]

theorem probes_arrival
    (hstate : (breakerAfter config (⟨now, .arrival⟩ :: log)).state = .halfOpen) :
    probes config (⟨now, .arrival⟩ :: log) = log.length :: probes config log := by
  rw [probes, if_neg not_opens_arrival, if_pos ⟨rfl, hstate⟩]

theorem probes_of_ne_arrival (h : ¬ Opens config entry log) (hevent : entry.event ≠ .arrival) :
    probes config (entry :: log) = probes config log := by
  rw [probes, if_neg h, if_neg fun hboth ↦ hevent hboth.1]

theorem probeSuccesses_arrival :
    probeSuccesses config (⟨now, .arrival⟩ :: log) = probeSuccesses config log := by
  rw [probeSuccesses, if_neg not_opens_arrival]

theorem probeSuccesses_start :
    probeSuccesses config (⟨now, .start call⟩ :: log) = probeSuccesses config log := by
  rw [probeSuccesses, if_neg not_opens_start]

theorem probeSuccesses_success (h : ¬ Opens config ⟨now, .completion call true⟩ log)
    (hprobe : call ∈ probes config log) :
    probeSuccesses config (⟨now, .completion call true⟩ :: log) =
      probeSuccesses config log + 1 := by
  rw [probeSuccesses, if_neg h]
  exact if_pos ⟨rfl, hprobe⟩

theorem probeSuccesses_of_notMem {success : Bool}
    (h : ¬ Opens config ⟨now, .completion call success⟩ log)
    (hprobe : call ∉ probes config log) :
    probeSuccesses config (⟨now, .completion call success⟩ :: log) = probeSuccesses config log := by
  rw [probeSuccesses, if_neg h]
  exact if_neg fun hboth ↦ hprobe hboth.2

theorem successesSinceEntered_of_eq
    (h : (breakerAfter config (entry :: log)).state = (breakerAfter config log).state) :
    successesSinceEntered config (entry :: log) =
      successesSinceEntered config log + if entry.succeeds then 1 else 0 := by
  rw [successesSinceEntered, sinceEntered, if_pos h, List.countP_cons]
  rfl

theorem successesSinceEntered_of_ne
    (h : (breakerAfter config (entry :: log)).state ≠ (breakerAfter config log).state) :
    successesSinceEntered config (entry :: log) = 0 := by
  rw [successesSinceEntered, sinceEntered, if_neg h, List.countP_nil]

end Equations

/-- Of an open breaker: every call that was admitted is late, and there is no probe yet. -/
structure Broken (config : BreakerConfig) (log : BreakerLog) : Prop where
  state : (breakerAfter config log).state = .open
  late : ∀ call ∈ admittedCalls config log, call ∈ lateCalls config log
  noProbes : probes config log = []
  noSuccesses : probeSuccesses config log = 0

/-- Of a half-open breaker: every call that was admitted is a probe or late, and the successes that
it counts are those of probes unless late calls ended. -/
structure Probing (config : BreakerConfig) (log : BreakerLog) : Prop where
  state : (breakerAfter config log).state = .halfOpen
  accounted : ∀ call ∈ admittedCalls config log,
    call ∈ probes config log ∨ call ∈ lateCalls config log
  counted : (breakerAfter config log).successCount = successesSinceEntered config log
  few : (breakerAfter config log).successCount < config.successThreshold
  timely : Timely config log → probeSuccesses config log = successesSinceEntered config log

section Steps

theorem broken_of_opens (h : Opens config entry log) : Broken config (entry :: log) := by
  obtain ⟨⟨call, hevent⟩, hsince⟩ := h.openSince
  obtain ⟨now, event⟩ := entry
  obtain rfl : event = .completion call false := hevent
  refine ⟨hsince.state, fun other hother ↦ ?_, if_pos h, if_pos h⟩
  rw [lateCalls, if_pos h]
  exact hother

theorem Broken.completion (h : Broken config log) (now call : ℕ) (success : Bool) :
    Broken config (⟨now, .completion call success⟩ :: log) := by
  have hopens : ¬ Opens config ⟨now, .completion call success⟩ log := fun hopens ↦ hopens.1 h.state
  have hprobe : call ∉ probes config log := by simp [h.noProbes]
  refine ⟨(Breaker.complete_of_open h.state ..).1, ?_, ?_, ?_⟩
  · rw [lateCalls_of_not_opens hopens]
    exact h.late
  · rw [probes_of_ne_arrival hopens nofun, h.noProbes]
  · rw [probeSuccesses_of_notMem hopens hprobe, h.noSuccesses]

theorem Broken.start (h : Broken config log) (now call : ℕ) :
    Broken config (⟨now, .start call⟩ :: log) := by
  refine ⟨h.state, ?_, ?_, ?_⟩
  · rw [lateCalls_of_not_opens not_opens_start]
    exact h.late
  · rw [probes_of_ne_arrival not_opens_start nofun, h.noProbes]
  · rw [probeSuccesses_start, h.noSuccesses]

theorem Broken.arrival (h : Broken config log) (hthreshold : 1 ≤ config.successThreshold)
    (now : ℕ) :
    Broken config (⟨now, .arrival⟩ :: log) ∨ Probing config (⟨now, .arrival⟩ :: log) := by
  have hlate : lateCalls config (⟨now, .arrival⟩ :: log) = lateCalls config log :=
    lateCalls_of_not_opens not_opens_arrival
  have hafter := breakerAfter_arrival config now log
  have hadmitted : admittedCalls config (⟨now, .arrival⟩ :: log) =
      if ((breakerAfter config log).arrive config now).1 = .admitted then
        log.length :: admittedCalls config log
      else admittedCalls config log := rfl
  have harrives := Breaker.arrives_arrive config now (breakerAfter config log)
  generalize (breakerAfter config log).arrive config now = answer at harrives hafter hadmitted
  cases harrives with
  | admitted hstate => exact absurd h.state hstate
  | rejected hstate hearly =>
    have hopen : (breakerAfter config (⟨now, .arrival⟩ :: log)).state = .open := hafter ▸ hstate
    refine .inl ⟨hopen, ?_, ?_, ?_⟩
    · rw [hadmitted, hlate]
      exact h.late
    · rw [probes_of_ne_halfOpen not_opens_arrival (by simp [hopen]), h.noProbes]
    · rw [probeSuccesses_arrival, h.noSuccesses]
  | halfOpened hstate hpassed =>
    have hhalf : (breakerAfter config (⟨now, .arrival⟩ :: log)).state = .halfOpen := by rw [hafter]
    have hsince : successesSinceEntered config (⟨now, .arrival⟩ :: log) = 0 :=
      successesSinceEntered_of_ne (by simp [hhalf, hstate])
    refine .inr ⟨hhalf, ?_, ?_, ?_, fun _ ↦ ?_⟩
    · rw [hadmitted, hlate, probes_arrival hhalf, if_pos rfl, List.forall_mem_cons]
      exact ⟨.inl List.mem_cons_self, fun call hcall ↦ .inr (h.late call hcall)⟩
    · rw [hsince, hafter]
    · rw [hafter]
      exact hthreshold
    · rw [hsince, probeSuccesses_arrival, h.noSuccesses]

theorem Probing.arrival (h : Probing config log) (now : ℕ) :
    Probing config (⟨now, .arrival⟩ :: log) := by
  have harrive :
      (breakerAfter config log).arrive config now = (.admitted, breakerAfter config log) :=
    Breaker.arrive_of_ne_open (by simp [h.state])
  have hafter : breakerAfter config (⟨now, .arrival⟩ :: log) = breakerAfter config log := by
    rw [breakerAfter_arrival, harrive]
  have hhalf : (breakerAfter config (⟨now, .arrival⟩ :: log)).state = .halfOpen := by
    rw [hafter, h.state]
  have hsince : successesSinceEntered config (⟨now, .arrival⟩ :: log) =
      successesSinceEntered config log := successesSinceEntered_of_eq (by rw [hafter])
  refine ⟨hhalf, ?_, ?_, ?_, fun htimely ↦ ?_⟩
  · rw [admittedCalls, harrive, probes_arrival hhalf, lateCalls_of_not_opens not_opens_arrival,
      if_pos rfl, List.forall_mem_cons]
    refine ⟨.inl List.mem_cons_self, fun call hcall ↦ ?_⟩
    exact (h.accounted call hcall).imp_left (List.mem_cons_of_mem _)
  · rw [hsince, hafter, h.counted]
  · rw [hafter]
    exact h.few
  · rw [hsince, probeSuccesses_arrival, h.timely htimely.2]

theorem Probing.start (h : Probing config log) (now call : ℕ) :
    Probing config (⟨now, .start call⟩ :: log) := by
  have hsince : successesSinceEntered config (⟨now, .start call⟩ :: log) =
      successesSinceEntered config log := successesSinceEntered_of_eq rfl
  refine ⟨h.state, ?_, ?_, h.few, fun htimely ↦ ?_⟩
  · rw [probes_of_ne_arrival not_opens_start nofun, lateCalls_of_not_opens not_opens_start]
    exact h.accounted
  · rw [hsince, breakerAfter_start, h.counted]
  · rw [hsince, probeSuccesses_start, h.timely htimely.2]

theorem Probing.mem_probes {success : Bool} (h : Probing config log)
    (hadmitted : call ∈ admittedCalls config log)
    (htimely : Timely config (⟨now, .completion call success⟩ :: log)) :
    call ∈ probes config log := by
  refine (h.accounted call hadmitted).resolve_right fun hlate ↦ ?_
  have hopen := htimely.1 call (List.mem_singleton_self call) hlate
  rw [h.state] at hopen
  cases hopen

theorem Probing.probeSuccesses_eq (h : Probing config log)
    (hadmitted : call ∈ admittedCalls config log)
    (hopens : ¬ Opens config ⟨now, .completion call true⟩ log)
    (htimely : Timely config (⟨now, .completion call true⟩ :: log)) :
    probeSuccesses config (⟨now, .completion call true⟩ :: log) =
      successesSinceEntered config log + 1 := by
  rw [probeSuccesses_success hopens (h.mem_probes hadmitted htimely), h.timely htimely.2]

/-- What the end of a call does to a half-open breaker: a failure opens it, and a success is counted
or is the last that is wanted and closes it. -/
theorem Probing.completion (h : Probing config log) (hadmitted : call ∈ admittedCalls config log)
    (now : ℕ) (success : Bool) :
    success = false ∧ Opens config ⟨now, .completion call success⟩ log ∨
      success = true ∧ successesSinceEntered config log + 1 < config.successThreshold ∧
        Probing config (⟨now, .completion call success⟩ :: log) ∨
      success = true ∧ successesSinceEntered config log + 1 = config.successThreshold ∧
        (breakerAfter config (⟨now, .completion call success⟩ :: log)).state = .closed := by
  have hhalf := h.state
  obtain ⟨breaker, hafter, hcompletes⟩ := exists_completes config now call success log
  cases hcompletes with
  | succeeded hstate => exact absurd hhalf hstate
  | failed hstate hfew => exact absurd hhalf hstate
  | opened hstate henough => simp [hhalf] at hstate
  | reopened hstate => exact .inl ⟨rfl, by simp [hhalf], by rw [hafter]⟩
  | closed hstate henough =>
    have hfew := h.few
    rw [h.counted] at hfew henough
    exact .inr (.inr ⟨rfl, by omega, by rw [hafter]; rfl⟩)
  | counted hstate hfew =>
    have hstate :
        (breakerAfter config (⟨now, .completion call true⟩ :: log)).state = .halfOpen := by
      rw [hafter, hhalf]
    have hopens : ¬ Opens config ⟨now, .completion call true⟩ log := by
      rintro ⟨-, hopen⟩
      rw [hstate] at hopen
      cases hopen
    have hsince : successesSinceEntered config (⟨now, .completion call true⟩ :: log) =
        successesSinceEntered config log + 1 :=
      successesSinceEntered_of_eq (hstate.trans hhalf.symm)
    refine .inr (.inl ⟨rfl, h.counted ▸ hfew, hstate, ?_, ?_, ?_, fun htimely ↦ ?_⟩)
    · rw [probes_of_ne_arrival hopens nofun, lateCalls_of_not_opens hopens]
      exact h.accounted
    · rw [hsince, hafter, h.counted]
    · rw [hafter]
      exact hfew
    · rw [hsince, h.probeSuccesses_eq hadmitted hopens htimely]

theorem closed_or_opens (hclosed : (breakerAfter config log).state = .closed)
    (entry : BreakerEntry) :
    (breakerAfter config (entry :: log)).state = .closed ∨ Opens config entry log := by
  have hstate := Breaker.next_of_closed hclosed config entry
  have hbefore : (breakerAfter config log).state ≠ .open := by simp [hclosed]
  cases hafter : (breakerAfter config (entry :: log)).state with
  | closed => exact .inl rfl
  | «open» => exact .inr ⟨hbefore, hafter⟩
  | halfOpen => exact absurd hafter hstate

end Steps

theorem Interleaving.recovering (h : Interleaving config log)
    (hthreshold : 1 ≤ config.successThreshold) :
    (breakerAfter config log).state = .closed ∨ Broken config log ∨ Probing config log := by
  -- A closed breaker needs no invariant: when it opens, every call admitted so far becomes late.
  induction h with
  | nil => exact .inl rfl
  | @arrival log now h hnow ih =>
    obtain hclosed | hbroken | hprobing := ih
    · exact (closed_or_opens hclosed _).imp_right fun hopens ↦ .inl (broken_of_opens hopens)
    · exact .inr (hbroken.arrival hthreshold now)
    · exact .inr (.inr (hprobing.arrival now))
  | @start log now call h hnow hadmitted hwaiting ih =>
    exact ih.imp_right fun hordered ↦
      hordered.imp (fun hbroken ↦ hbroken.start now call) fun hprobing ↦ hprobing.start now call
  | @completion log now call success h hnow hstarted hrunning ih =>
    obtain hclosed | hbroken | hprobing := ih
    · exact (closed_or_opens hclosed _).imp_right fun hopens ↦ .inl (broken_of_opens hopens)
    · exact .inr (.inl (hbroken.completion now call success))
    · obtain ⟨-, hopens⟩ | ⟨-, -, hprobing⟩ | ⟨-, -, hclosed⟩ :=
        hprobing.completion (h.startedCalls_subset hstarted) now success
      · exact .inr (.inl (broken_of_opens hopens))
      · exact .inr (.inr hprobing)
      · exact .inl hclosed

theorem Interleaving.probing (h : Interleaving config log)
    (hthreshold : 1 ≤ config.successThreshold)
    (hstate : (breakerAfter config log).state = .halfOpen) : Probing config log := by
  obtain hclosed | hbroken | hprobing := h.recovering hthreshold
  · simp [hstate] at hclosed
  · have hopen := hbroken.state
    simp [hstate] at hopen
  · exact hprobing

theorem Probing.state_completion_iff (h : Probing config log)
    (hadmitted : call ∈ admittedCalls config log) (now : ℕ) (success : Bool) :
    ((breakerAfter config (⟨now, .completion call success⟩ :: log)).state = .closed ↔
        success = true ∧ successesSinceEntered config log + 1 = config.successThreshold) ∧
      ((breakerAfter config (⟨now, .completion call success⟩ :: log)).state = .open ↔
        success = false) := by
  obtain ⟨rfl, -, hopen⟩ | ⟨rfl, hfew, hnext⟩ | ⟨rfl, hlast, hclosed⟩ :=
    h.completion hadmitted now success
  · simp [hopen]
  · simp [hnext.state, Nat.ne_of_lt hfew]
  · simp [hclosed, hlast]

/-- A half-open breaker closes exactly with the success that is the last of those wanted since it
turned half-open, and opens exactly with a failure; the call that ends is a probe or late, and no
call that ends moves an open breaker. If late calls end only while it is open, then the successes
are those of probes alone, so that probes decide whether it closes or opens, and late calls never
move it. -/
theorem breaker_recovers (h : Interleaving config (entry :: log))
    (hthreshold : 1 ≤ config.successThreshold) :
    let before := (breakerAfter config log).state
    let after := (breakerAfter config (entry :: log)).state
    (before = .halfOpen → (after = .closed ↔
        entry.succeeds = true ∧
          successesSinceEntered config log + 1 = config.successThreshold)) ∧
      (before = .halfOpen → (after = .open ↔ ∃ now call, entry = ⟨now, .completion call false⟩)) ∧
      (before = .halfOpen → ∀ now call success, entry = ⟨now, .completion call success⟩ →
        call ∈ probes config log ∨ call ∈ lateCalls config log) ∧
      (before = .open → ∀ now call success, entry = ⟨now, .completion call success⟩ →
        after = .open) ∧
      (Timely config (entry :: log) →
        (before = .halfOpen → after = .closed → ∃ now, ∃ call ∈ probes config log,
          entry = ⟨now, .completion call true⟩ ∧
            probeSuccesses config (entry :: log) = config.successThreshold) ∧
        (before = .halfOpen → after = .open → ∃ now, ∃ call ∈ probes config log,
          entry = ⟨now, .completion call false⟩) ∧
        ∀ now call success, entry = ⟨now, .completion call success⟩ →
          call ∈ lateCalls config log → after = before) := by
  intro before after
  have hprobing (hhalf : before = .halfOpen) : Probing config log :=
    h.tail.probing hthreshold hhalf
  cases h with
  | @arrival _ now _ _ =>
    have hafter (hhalf : before = .halfOpen) : after = .halfOpen :=
      ((hprobing hhalf).arrival now).state
    refine ⟨fun hhalf ↦ ?_, fun hhalf ↦ ?_, by simp, by simp, fun _ ↦
      ⟨fun hhalf hclosed ↦ ?_, fun hhalf hopen ↦ ?_, by simp⟩⟩
    · simp [hafter hhalf, BreakerEntry.succeeds]
    · simp [hafter hhalf]
    · simp [hafter hhalf] at hclosed
    · simp [hafter hhalf] at hopen
  | @start _ now call _ _ _ _ =>
    have hafter : after = before := rfl
    refine ⟨fun hhalf ↦ ?_, fun hhalf ↦ ?_, by simp, by simp, fun _ ↦
      ⟨fun hhalf hclosed ↦ ?_, fun hhalf hopen ↦ ?_, by simp⟩⟩
    · simp [hafter, hhalf, BreakerEntry.succeeds]
    · simp [hafter, hhalf]
    · cases hclosed.symm.trans (hafter.trans hhalf)
    · cases hopen.symm.trans (hafter.trans hhalf)
  | @completion _ now call success h _ hstarted _ =>
    have hadmitted := h.startedCalls_subset hstarted
    have hstates (hhalf : before = .halfOpen) :=
      (hprobing hhalf).state_completion_iff hadmitted now success
    have hopen (hstate : before = .open) : after = .open :=
      (Breaker.complete_of_open hstate config now success).1
    refine ⟨fun hhalf ↦ (hstates hhalf).1, fun hhalf ↦ (hstates hhalf).2.trans (by simp), ?_,
      fun hstate _ _ _ _ ↦ hopen hstate, fun htimely ↦ ⟨fun hhalf hclosed ↦ ?_,
        fun hhalf hopened ↦ ?_, ?_⟩⟩
    · rintro hhalf _ _ _ ⟨⟩
      exact (hprobing hhalf).accounted call hadmitted
    · obtain ⟨rfl, hlast⟩ := (hstates hhalf).1.mp hclosed
      have hopens : ¬ Opens config ⟨now, .completion call true⟩ log := by
        rintro ⟨-, hopened⟩
        cases hclosed.symm.trans hopened
      refine ⟨now, call, (hprobing hhalf).mem_probes hadmitted htimely, rfl, ?_⟩
      rw [(hprobing hhalf).probeSuccesses_eq hadmitted hopens htimely, hlast]
    · obtain rfl := (hstates hhalf).2.mp hopened
      exact ⟨now, call, (hprobing hhalf).mem_probes hadmitted htimely, rfl⟩
    · rintro _ _ _ ⟨⟩ hlate
      have hstate : before = .open := htimely.1 call (List.mem_singleton_self call) hlate
      exact (hopen hstate).trans hstate.symm

/-- A probe closes the breaker, if one is wanted. -/
theorem probe_recovers :
    let config : BreakerConfig := ⟨1, 50, 1⟩
    let log : BreakerLog := [⟨50001, .start 3⟩, ⟨50001, .arrival⟩, ⟨1, .completion 0 false⟩,
      ⟨0, .start 0⟩, ⟨0, .arrival⟩]
    let entry : BreakerEntry := ⟨50002, .completion 3 true⟩
    Interleaving config (entry :: log) ∧ Timely config (entry :: log) ∧
      (breakerAfter config log).state = .halfOpen ∧
      (breakerAfter config (entry :: log)).state = .closed ∧ probes config log = [3] ∧
      probeSuccesses config (entry :: log) = 1 := by
  intro config log entry
  have hstarted : Interleaving config [⟨0, .start 0⟩, ⟨0, .arrival⟩] :=
    (Interleaving.nil.arrival (by decide)).start (by decide) (by decide) (by decide)
  have hfailed : Interleaving config [⟨1, .completion 0 false⟩, ⟨0, .start 0⟩, ⟨0, .arrival⟩] :=
    hstarted.completion false (by decide) (by decide) (by decide)
  have hlog : Interleaving config log :=
    (hfailed.arrival (by decide)).start (by decide) (by decide +kernel) (by decide)
  have h : Interleaving config (entry :: log) :=
    hlog.completion true (by decide) (by decide) (by decide)
  have hhalf : (breakerAfter config log).state = .halfOpen := by decide +kernel
  have htimely : Timely config (entry :: log) := by decide +kernel
  obtain ⟨hcloses, -, -, -, hprobes⟩ := breaker_recovers h (by decide)
  have hclosed := (hcloses hhalf).mpr ⟨rfl, by decide +kernel⟩
  obtain ⟨_, _, _, _, hcount⟩ := (hprobes htimely).1 hhalf hclosed
  exact ⟨h, htimely, hhalf, hclosed, by decide +kernel, hcount⟩

/-- With two probes wanted, one closes the breaker together with a call that was admitted before it
opened, and the failure of such a call opens it anew. The success is also one of a call around
others that run at one time. -/
theorem lateCall_recovers :
    let config : BreakerConfig := ⟨1, 50, 2⟩
    let past : BreakerLog :=
      [⟨1, .start 2⟩, ⟨1, .arrival⟩, ⟨0, .start 0⟩, ⟨0, .arrival⟩]
    let log : BreakerLog := [⟨50003, .completion 5 true⟩, ⟨50002, .start 5⟩, ⟨50002, .arrival⟩,
      ⟨2, .completion 2 false⟩] ++ past
    let success : BreakerEntry := ⟨50004, .completion 0 true⟩
    let failure : BreakerEntry := ⟨50004, .completion 0 false⟩
    Interleaving config (success :: log) ∧ Interleaving config (failure :: log) ∧
      (breakerAfter config log).state = .halfOpen ∧ lateCalls config log = [2, 0] ∧
      probes config log = [5] ∧ probeSuccesses config (success :: log) = 1 ∧
      (breakerAfter config (success :: log)).state = .closed ∧
      (breakerAfter config (failure :: log)).state = .open ∧
      (Breaker.initial.make ⟨1, 0, 2⟩ 0 (.call true [.call false [], .call true []])).2.state =
        .closed := by
  intro config past log success failure
  have hfirst : Interleaving config [⟨0, .start 0⟩, ⟨0, .arrival⟩] :=
    (Interleaving.nil.arrival (by decide)).start (by decide) (by decide) (by decide)
  have hpast : Interleaving config past :=
    (hfirst.arrival (by decide)).start (by decide) (by decide) (by decide)
  have hfailed : Interleaving config (⟨2, .completion 2 false⟩ :: past) :=
    hpast.completion false (by decide) (by decide) (by decide)
  have hprobe : Interleaving config
      (⟨50002, .start 5⟩ :: ⟨50002, .arrival⟩ :: ⟨2, .completion 2 false⟩ :: past) :=
    (hfailed.arrival (by decide)).start (by decide) (by decide +kernel) (by decide)
  have hlog : Interleaving config log :=
    hprobe.completion true (by decide) (by decide) (by decide)
  refine ⟨hlog.completion true (by decide) (by decide) (by decide),
    hlog.completion false (by decide) (by decide) (by decide), ?_⟩
  decide +kernel

end WorkflowSearch
