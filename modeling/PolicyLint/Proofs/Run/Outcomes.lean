/-
# Outcomes as a monoid

Joining outcomes is associative and commutative, and the outcome of nothing is neutral. So outcomes
join to the same in whatever order they come and however they are bracketed: each counter is the sum
of theirs, and the whole is fatal if one of them is. What single observations join to keeps its
meaning: it is fatal exactly if it counts something fatal, and it counts no more fatal warnings than
warnings. Every such outcome is joined from observations, and the outcome of any run is one.

* `Outcome.total` : what some outcomes come to, counter by counter;
* `Outcome.Bracketing`, `Outcome.Bracketing.value_eq_total` : outcomes joined two at a time;
* `Outcome.Bracketing.fits_of_mem_joins` : no join on the way counts more than the last one;
* `Outcome.Reached`, `Outcome.reached_iff_isSound` : what observations join to;
* `Outcome.value_perm_and_reached_iff` : both together;
* `Run.reached_run` : the outcome of a run.
-/
import PolicyLint.Proofs.Run.Transcript

namespace PolicyLint

namespace Outcome

/-! ## The whole of some outcomes -/

/-- What some outcomes come to: each counter is the sum of theirs. -/
def total (os : List Outcome) : Outcome where
  fatal := os.any (·.fatal)
  inputs := (os.map (·.inputs)).sum
  failedInputs := (os.map (·.failedInputs)).sum
  warnings := (os.map (·.warnings)).sum
  fatalWarnings := (os.map (·.fatalWarnings)).sum
  guardFailures := (os.map (·.guardFailures)).sum

theorem total_nil : total [] = empty := rfl

theorem total_singleton (o : Outcome) : total [o] = o := by
  simp [total]

/-- What comes of two parts is joined. -/
theorem total_append (os ps : List Outcome) : total (os ++ ps) = (total os).join (total ps) := by
  simp [total, join, List.sum_append]

/-- The order does not matter. -/
theorem total_of_perm {os ps : List Outcome} (h : os.Perm ps) : total os = total ps := by
  simp only [total, h.any_eq, (h.map _).sum_nat]

/-! ## Bracketings -/

/-- Outcomes that are joined two at a time, in some order and with some brackets; nothing may be
among them. -/
inductive Bracketing where
  | nothing
  | part (o : Outcome)
  | both (left right : Bracketing)

namespace Bracketing

/-- The outcomes of a bracketing, from left to right. -/
def parts : Bracketing → List Outcome
  | nothing => []
  | part o => [o]
  | both l r => l.parts ++ r.parts

/-- What a bracketing is joined to. -/
def value : Bracketing → Outcome
  | nothing => empty
  | part o => o
  | both l r => l.value.join r.value

/-- All that is joined on the way, the whole among it. -/
def joins : Bracketing → List Outcome
  | nothing => [empty]
  | part o => [o]
  | both l r => l.value.join r.value :: (l.joins ++ r.joins)

/-- **Brackets do not matter**: only the outcomes between them count. -/
theorem value_eq_total (b : Bracketing) : b.value = total b.parts := by
  induction b with
  | nothing => exact total_nil.symm
  | part o => exact (total_singleton o).symm
  | both l r ihl ihr => rw [value, parts, total_append, ihl, ihr]

end Bracketing

/-- Whether all counters are numbers of 64 bits. -/
structure Fits (o : Outcome) : Prop where
  inputs : o.inputs < UInt64.size
  failedInputs : o.failedInputs < UInt64.size
  warnings : o.warnings < UInt64.size
  fatalWarnings : o.fatalWarnings < UInt64.size
  guardFailures : o.guardFailures < UInt64.size

/-- Joining makes no counter smaller. -/
theorem Fits.of_join {a b : Outcome} (h : (a.join b).Fits) : a.Fits ∧ b.Fits := by
  obtain ⟨h1, h2, h3, h4, h5⟩ := h
  simp only [join] at h1 h2 h3 h4 h5
  constructor
  · constructor <;> omega
  · constructor <;> omega

/-- **If the whole fits, then so does all that is joined on the way**, however it is bracketed. -/
theorem Bracketing.fits_of_mem_joins {b : Bracketing} (h : b.value.Fits) :
    ∀ o ∈ b.joins, o.Fits := by
  induction b with
  | nothing => exact List.forall_mem_singleton.mpr h
  | part o => exact List.forall_mem_singleton.mpr h
  | both l r ihl ihr =>
      obtain ⟨hl, hr⟩ := Fits.of_join h
      intro o ho
      rcases List.mem_cons.mp ho with rfl | ho
      · exact h
      · rcases List.mem_append.mp ho with ho | ho
        · exact ihl hl o ho
        · exact ihr hr o ho

/-! ## What observations join to -/

/-- A single observation: an input was attempted or failed, a warning was reported, or a failure
reached the guard. -/
inductive Observation : Outcome → Prop
  | attempted : Observation attempted
  | failedInput : Observation failedInput
  | guardFailure : Observation guardFailure
  | warning (w : Warning) : Observation (ofWarning w)

/-- What is reached from the outcome of nothing by joining observations to it, on either side, and
outcomes that have been reached, itself as well. -/
inductive Reached : Outcome → Prop
  | empty : Reached empty
  | behind {o x : Outcome} (h : Reached o) (hx : Observation x) : Reached (o.join x)
  | before {o x : Outcome} (h : Reached o) (hx : Observation x) : Reached (x.join o)
  | join {a b : Outcome} (ha : Reached a) (hb : Reached b) : Reached (a.join b)

/-- Whether the flag of an outcome agrees with its counters, and these with each other. -/
structure IsSound (o : Outcome) : Prop where
  fatal_iff : o.fatal = true ↔ 0 < o.failedInputs + o.fatalWarnings + o.guardFailures
  fatalWarnings_le : o.fatalWarnings ≤ o.warnings

variable {o a b x : Outcome}

/-- An observation is sound. -/
theorem Observation.isSound (h : Observation x) : x.IsSound := by
  cases h with
  | attempted => exact ⟨by decide, by decide⟩
  | failedInput => exact ⟨by decide, by decide⟩
  | guardFailure => exact ⟨by decide, by decide⟩
  | warning w =>
      constructor
      · cases hfatal : w.fatal <;> simp [ofWarning, hfatal]
      · simp only [ofWarning]
        split <;> omega

/-- What is joined of sound outcomes is sound. -/
theorem IsSound.join (ha : a.IsSound) (hb : b.IsSound) : (a.join b).IsSound := by
  obtain ⟨hfatalA, hleA⟩ := ha
  obtain ⟨hfatalB, hleB⟩ := hb
  constructor
  · simp only [Outcome.join, Bool.or_eq_true, hfatalA, hfatalB]
    omega
  · exact Nat.add_le_add hleA hleB

/-- **What is reached is sound.** By induction on how it is reached. -/
theorem Reached.isSound (h : Reached o) : o.IsSound := by
  induction h with
  | empty => exact ⟨by decide, by decide⟩
  | behind _ hx ih => exact ih.join hx.isSound
  | before _ hx ih => exact hx.isSound.join ih
  | join _ _ iha ihb => exact iha.join ihb

/-- The counters of a sound outcome decide its flag. -/
theorem IsSound.eq_of_counters (ha : a.IsSound) (hb : b.IsSound) (hinputs : a.inputs = b.inputs)
    (hfailed : a.failedInputs = b.failedInputs) (hwarnings : a.warnings = b.warnings)
    (hfatal : a.fatalWarnings = b.fatalWarnings) (hguard : a.guardFailures = b.guardFailures) :
    a = b := by
  have hflag : a.fatal = b.fatal := by
    rw [Bool.eq_iff_iff, ha.fatal_iff, hb.fatal_iff, hfailed, hfatal, hguard]
  obtain ⟨_, _, _, _, _, _⟩ := a
  simp_all

/-- Whatever is counted of inputs, warnings and faults is reached, one after the other. -/
theorem reached_tally (n : Nat) (ws : List Warning) (xs : List Fault) :
    Reached (tally n ws xs) := by
  have hinputs : Reached (tally n [] []) := by
    induction n with
    | zero => exact .empty
    | succ n ih => exact join_tally n 1 [] [] [] [] ▸ ih.behind .attempted
  have hwarnings : Reached (tally 0 ws []) := by
    induction ws with
    | nil => exact .empty
    | cons w ws ih =>
        have hjoin := join_tally 0 0 [w] ws [] []
        rw [← ofWarning_eq_tally] at hjoin
        exact hjoin ▸ ih.before (.warning w)
  have hfaults : Reached (tally 0 [] xs) := by
    induction xs with
    | nil => exact .empty
    | cons x xs ih =>
        have hjoin := join_tally 0 0 [] [] [x] xs
        cases x with
        | rejection input e => exact hjoin ▸ ih.before .failedInput
        | failure f => exact hjoin ▸ ih.before .guardFailure
  have hjoin := (hinputs.join hwarnings).join hfaults
  rw [join_tally, join_tally] at hjoin
  simpa using hjoin

/-- **An outcome is reached exactly if it is sound.** -/
theorem reached_iff_isSound : Reached o ↔ o.IsSound := by
  refine ⟨Reached.isSound, fun h => ?_⟩
  -- as many inputs, warnings of either kind, rejections and failures are counted as it says
  let warning (fatal : Bool) : Warning := ⟨"", ⟨1, 1⟩, "", fatal⟩
  let ws := List.replicate o.fatalWarnings (warning true) ++
    List.replicate (o.warnings - o.fatalWarnings) (warning false)
  let xs := List.replicate o.failedInputs (Fault.rejection "" (.notFound "")) ++
    List.replicate o.guardFailures (Fault.failure ⟨"", ""⟩)
  have hreached := reached_tally o.inputs ws xs
  have heq : o = tally o.inputs ws xs := by
    have hle := h.fatalWarnings_le
    apply h.eq_of_counters hreached.isSound
    · rfl
    · simp [tally, xs, List.countP_replicate, Fault.isRejection]
    · simp [tally, ws]
      omega
    · simp [tally, ws, List.countP_replicate, warning]
    · simp [tally, xs, List.filterMap_replicate, Fault.failure?]
  exact heq ▸ hreached

/-- **Outcomes form a commutative monoid and keep their meaning.** Outcomes that are joined two at
a time come to the same in any order and with any brackets; the outcome of nothing does not change
what it is joined to; each counter of the whole is the sum of those of the parts, and the whole is
fatal exactly if one of the parts is; and if its counters fit in 64 bits, so do those of all that is
joined on the way. What is reached by joining observations is fatal exactly if it counts something
fatal, and counts no more fatal warnings than warnings, and nothing else is asked of what is
reached; and its exit status is one exactly if it is fatal. -/
theorem value_perm_and_reached_iff :
    (∀ b b' : Bracketing, b.parts.Perm b'.parts → b.value = b'.value) ∧
    (∀ o : Outcome, o.join empty = o ∧ empty.join o = o) ∧
    (∀ b : Bracketing, b.value = total b.parts ∧
      (b.value.fatal = true ↔ ∃ o ∈ b.parts, o.fatal = true) ∧
      (b.value.Fits → ∀ o ∈ b.joins, o.Fits)) ∧
    ∀ o : Outcome,
      (Reached o ↔ (o.fatal = true ↔ 0 < o.failedInputs + o.fatalWarnings + o.guardFailures) ∧
        o.fatalWarnings ≤ o.warnings) ∧
      (o.exitCode = 1 ↔ o.fatal = true) := by
  refine ⟨?_, fun o => ⟨o.join_empty, o.empty_join⟩, ?_, ?_⟩
  · intro b b' hperm
    rw [b.value_eq_total, b'.value_eq_total, total_of_perm hperm]
  · intro b
    refine ⟨b.value_eq_total, ?_, Bracketing.fits_of_mem_joins⟩
    rw [b.value_eq_total]
    exact List.any_eq_true
  · intro o
    constructor
    · rw [reached_iff_isSound]
      exact ⟨fun h => ⟨h.fatal_iff, h.fatalWarnings_le⟩, fun h => ⟨h.1, h.2⟩⟩
    · cases hfatal : o.fatal <;> simp [exitCode, hfatal]

/-- Four observations, two of them the same, in two orders and with two bracketings. -/
theorem value_of_two_bracketings :
    let w : Warning := ⟨"a.js", ⟨1, 1⟩, "", false⟩
    let b := Bracketing.both (.both (.part (ofWarning w)) (.part (ofWarning w)))
      (.both (.part guardFailure) (.part attempted))
    let b' := Bracketing.both (.both .nothing (.part (ofWarning w)))
      (.both (.part attempted) (.both (.part guardFailure) (.part (ofWarning w))))
    b.parts.Perm b'.parts ∧ b.value = b'.value ∧ b.value.Fits ∧ (∀ o ∈ b'.joins, o.Fits) ∧
      Reached b.value ∧ b.value.exitCode = 1 := by
  intro w b b'
  have hperm : b.parts.Perm b'.parts := by decide
  obtain ⟨hvalue, -, hfits, hreached⟩ := value_perm_and_reached_iff
  have heq := hvalue b b' hperm
  have hsmall : b'.value.Fits := by constructor <;> decide
  refine ⟨hperm, heq, heq ▸ hsmall, (hfits b').2.2 hsmall, ?_, (hreached _).2.mpr (by decide)⟩
  exact (hreached _).1.mpr ⟨by decide, by decide⟩

end Outcome

/-- The outcome of a run is reached: so it is fatal exactly if it counts something fatal. -/
theorem Run.reached_run {w : Workspace} {a : Analyzer} {o : RunOptions} {reporter : Reporter}
    {inputs : List String} {outcome : Outcome}
    (h : (Run.run w a o reporter inputs).result = .ok outcome) : Outcome.Reached outcome := by
  cases hload : Policy.load w o.policy with
  | error e =>
      rw [run_of_load_error a w o reporter inputs e hload] at h
      cases h
  | ok policy =>
      rw [run_of_load_ok a w o reporter inputs policy hload] at h
      cases h
      exact Outcome.reached_tally _ _ _

end PolicyLint
