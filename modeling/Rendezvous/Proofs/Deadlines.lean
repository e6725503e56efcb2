import Rendezvous.Deadline

/-!
Deadlines within the lifetime of the clock.

A point in time that the clock cannot show any more and the time since a point that is
still to come are no results here (`plus?`, `since?`).  A deadline that is made a hundred
years before the end of the clock needs neither: from its budget it counts down to its
expiry, and what is left at any time, what has passed and the next wait agree.
-/

set_option autoImplicit false

namespace Rendezvous

/-- The seconds of the duration fit 64 bits. -/
def Duration.Fits (length : Duration) : Prop :=
  length.nanos < secondsBound * nanosPerSecond

namespace Deadline

/-- The clock can show the point in time. -/
def Shown (time : Duration) : Prop :=
  time.nanos < clockEnd.nanos

/-- The point in time so much later, if the clock can show it. -/
def plus? (time length : Duration) : Option Duration :=
  if time.nanos + length.nanos < clockEnd.nanos then some ⟨time.nanos + length.nanos⟩ else none

/-- The time from one point to another one, unless that comes first. -/
def since? (later earlier : Duration) : Option Duration :=
  if earlier.nanos ≤ later.nanos then some ⟨later.nanos - earlier.nanos⟩ else none

theorem fits_of_shown {time length : Duration} (shown : Shown time)
    (within : length.nanos ≤ time.nanos) : length.Fits := by
  have bound : clockEnd.nanos ≤ Duration.secondsBound * Duration.nanosPerSecond := by decide
  unfold Shown at shown
  unfold Duration.Fits
  omega

theorem shown_of_plus? {time length later : Duration} (reached : plus? time length = some later) :
    Shown later := by
  unfold plus? at reached
  split at reached
  · next within =>
      cases reached
      exact within
  · cases reached

section

variable (start budget : Duration)

/-- A deadline is off by its budget, or by a hundred years when the clock ends before. -/
theorem after_eq :
    after start budget = ⟨start, ⟨start.nanos +
      (if start.nanos + budget.nanos < clockEnd.nanos then budget else longest).nanos⟩⟩ := by
  unfold after
  dsimp only
  split <;> rfl

theorem after_start : (after start budget).start = start := by
  rw [after_eq]

theorem after_budget :
    (after start budget).budget =
      if start.nanos + budget.nanos < clockEnd.nanos then budget else longest := by
  rw [after_eq, Deadline.budget, Nat.add_sub_cancel_left]

theorem start_le_expires : start.nanos ≤ (after start budget).expires.nanos := by
  rw [after_eq]
  exact Nat.le_add_right _ _

/-- Up to a hundred years, no budget is cut short. -/
theorem add_le_expires (within : budget.nanos ≤ longest.nanos) :
    start.nanos + budget.nanos ≤ (after start budget).expires.nanos := by
  rw [after_eq]
  apply Nat.add_le_add_left
  split
  · exact Nat.le_refl _
  · exact within

/-- The sum is that of the budget if the clock can show it, and else that of a hundred years. -/
theorem after_expires (early : Shown ⟨start.nanos + longest.nanos⟩) :
    (plus? start budget).or (plus? start longest) = some (after start budget).expires := by
  have fallback : plus? start longest = some ⟨start.nanos + longest.nanos⟩ := if_pos early
  rw [fallback, after_eq]
  unfold plus?
  split <;> rfl

end

section

variable (deadline : Deadline)

theorem since?_start {now : Duration} (begun : deadline.start.nanos ≤ now.nanos) :
    since? now deadline.start = some (deadline.elapsed now) :=
  if_pos begun

theorem since?_expires (now : Duration) :
    (since? deadline.expires now).getD .zero = deadline.remaining now := by
  unfold since? remaining
  split
  · rfl
  · next past =>
      have nothing : deadline.expires.nanos - now.nanos = 0 := by omega
      rw [nothing]
      rfl

theorem remaining_antitone {now later : Duration} (order : now.nanos ≤ later.nanos) :
    (deadline.remaining later).nanos ≤ (deadline.remaining now).nanos :=
  Nat.sub_le_sub_left order _

theorem isExpired_mono {now later : Duration} (order : now.nanos ≤ later.nanos)
    (expired : deadline.isExpired now = true) : deadline.isExpired later = true := by
  have past : deadline.expires.nanos ≤ now.nanos := of_decide_eq_true expired
  exact decide_eq_true (Nat.le_trans past order)

/-- Until the expiry, what is left and what has passed are the budget. -/
theorem remaining_add_elapsed {now : Duration} (begun : deadline.start.nanos ≤ now.nanos)
    (running : deadline.isExpired now = false) :
    (deadline.remaining now).nanos + (deadline.elapsed now).nanos = deadline.budget.nanos := by
  have before : ¬ deadline.expires.nanos ≤ now.nanos := of_decide_eq_false running
  unfold remaining elapsed budget
  dsimp only
  omega

theorem slice_le_bound (now bound : Duration) : (deadline.slice now bound).nanos ≤ bound.nanos :=
  Nat.min_le_right _ _

theorem slice_le_remaining (now bound : Duration) :
    (deadline.slice now bound).nanos ≤ (deadline.remaining now).nanos :=
  Nat.min_le_left _ _

/-- Before the expiry, a wait has time unless it is to have none. -/
theorem slice_eq_zero {now bound : Duration} (nothing : deadline.slice now bound = .zero) :
    deadline.isExpired now = true ∨ bound = .zero := by
  have least : Nat.min (deadline.remaining now).nanos bound.nanos = 0 :=
    congrArg Duration.nanos nothing
  rcases Nat.min_eq_zero_iff.mp least with spent | none
  · apply Or.inl
    apply (deadline.remaining_eq_zero_iff now).mp
    exact congrArg Duration.mk spent
  · exact Or.inr (congrArg Duration.mk none)

end

/--
A deadline that is made a hundred years before the end of the clock or earlier has the
given budget, or a hundred years when the clock cannot show the end of the budget.  It
expires when nothing is left, and stays expired; until then the budget is what is left
and what has passed.  A wait gets no more than its bound and what is left, but some time
if there is any.  Every sum is a time that the clock can show, every difference but the
one that stops at zero is of a time and an earlier one, and the seconds fit 64 bits.
-/
theorem counts_down_from_budget (start budget : Duration)
    (early : start.nanos + (Duration.ofParts 3153600000 0).nanos < clockEnd.nanos) :
    let deadline := after start budget
    (plus? start budget).or (plus? start longest) = some deadline.expires ∧
    deadline.budget =
      (if start.nanos + budget.nanos < clockEnd.nanos then budget else .ofParts 3153600000 0) ∧
    since? deadline.expires start = some deadline.budget ∧ deadline.budget.Fits ∧
    ∀ now : Duration, start.nanos ≤ now.nanos → Shown now →
      (deadline.remaining now = .zero ↔ deadline.isExpired now = true) ∧
      (∀ bound, (deadline.slice now bound).nanos ≤ bound.nanos ∧
        (deadline.slice now bound).nanos ≤ (deadline.remaining now).nanos ∧
        (deadline.slice now bound = .zero → deadline.isExpired now = true ∨ bound = .zero)) ∧
      (∀ later : Duration, now.nanos ≤ later.nanos →
        (deadline.remaining later).nanos ≤ (deadline.remaining now).nanos ∧
        (deadline.isExpired now = true → deadline.isExpired later = true)) ∧
      (deadline.isExpired now = false →
        (deadline.remaining now).nanos + (deadline.elapsed now).nanos = deadline.budget.nanos) ∧
      since? now start = some (deadline.elapsed now) ∧
      (since? deadline.expires now).getD .zero = deadline.remaining now ∧
      (deadline.elapsed now).Fits ∧ (deadline.remaining now).Fits := by
  intro deadline
  have expires := after_expires start budget early
  have made : deadline.start = start := after_start start budget
  have shown : Shown deadline.expires := by
    rcases Option.or_eq_some_iff.mp expires with reached | ⟨-, reached⟩
    · exact shown_of_plus? reached
    · exact shown_of_plus? reached
  refine ⟨expires, after_budget start budget, ?_, fits_of_shown shown (Nat.sub_le _ _), ?_⟩
  · have begun := start_le_expires start budget
    rw [since?, if_pos begun, Deadline.budget, made]
  · intro now begun present
    rw [← made] at begun
    refine ⟨deadline.remaining_eq_zero_iff now, ?_, ?_, ?_, ?_, ?_, ?_, ?_⟩
    · intro bound
      exact ⟨deadline.slice_le_bound now bound, deadline.slice_le_remaining now bound,
        deadline.slice_eq_zero⟩
    · intro later order
      exact ⟨deadline.remaining_antitone order, deadline.isExpired_mono order⟩
    · exact deadline.remaining_add_elapsed begun
    · rw [← made]
      exact deadline.since?_start begun
    · exact deadline.since?_expires now
    · exact fits_of_shown present (Nat.sub_le _ _)
    · exact fits_of_shown shown (Nat.sub_le _ _)

/-- A budget that ends with the clock is too long by a nanosecond and cut to a hundred years. -/
theorem tooLong_counts_down :
    let start := Duration.ofParts 7 5
    let deadline := after start ⟨clockEnd.nanos - start.nanos⟩
    start.nanos + (Duration.ofParts 3153600000 0).nanos < clockEnd.nanos ∧
      deadline.budget = .ofParts 3153600000 0 ∧
      (deadline.remaining (.ofParts 8 0)).nanos + (deadline.elapsed (.ofParts 8 0)).nanos =
        deadline.budget.nanos := by
  intro start deadline
  have early : start.nanos + (Duration.ofParts 3153600000 0).nanos < clockEnd.nanos := by decide
  obtain ⟨-, budget, -, -, each⟩ :=
    counts_down_from_budget start ⟨clockEnd.nanos - start.nanos⟩ early
  obtain ⟨-, -, -, shared, -⟩ := each (.ofParts 8 0) (by decide) (by unfold Shown; decide)
  refine ⟨early, budget.trans (by decide), shared (by decide)⟩

end Deadline

end Rendezvous
