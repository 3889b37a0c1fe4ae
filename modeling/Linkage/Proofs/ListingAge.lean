import Linkage.Repository.Cache

/-! The age of a listing. A lifetime may be any number of seconds, but a span of time is bounded, so a long lifetime is
cut off at the longest span. That is never seen: no two instants are as far apart. -/

namespace Linkage

namespace Instant
variable {later earlier : Instant}

/-- The nanoseconds since the start of 1970, not counting leap seconds. -/
def position (instant : Instant) : Int :=
  instant.seconds * nanosecondsPerSecond + instant.nanoseconds

theorem leapSeconds_eq_zero (first : ¬ later.isLeap) (second : ¬ earlier.isLeap) : leapSeconds later earlier = 0 := by
  simp [leapSeconds, first, second]

theorem leapSeconds_bounds (later earlier : Instant) :
    -1 ≤ leapSeconds later earlier ∧ leapSeconds later earlier ≤ 1 := by
  unfold leapSeconds
  split
  · decide
  · split <;> decide

theorem since_eq (later earlier : Instant) : later.since earlier =
    later.position - earlier.position + leapSeconds later earlier * nanosecondsPerSecond := by
  simp only [since, position, nanosecondsPerSecond]
  omega

theorem since_bounds (later earlier : Instant) :
    (later.since earlier).natAbs < 20000000000004 * nanosecondsPerSecond := by
  have counted := leapSeconds_bounds later earlier
  have upper := later.seconds_small
  have lower := earlier.seconds_small
  have fraction := later.nanoseconds_small
  have rest := earlier.nanoseconds_small
  simp only [since, nanosecondsPerSecond] at fraction rest ⊢
  omega

end Instant

namespace Listing
variable {listing : Listing} {now : Instant} {lifetime longer : Nat}

theorem longestSpan_eq : longestSpan = 9223372036854775807000000 :=
  rfl

theorem span?_eq_some (seconds : Nat) (short : seconds * nanosecondsPerSecond ≤ longestSpan) :
    span? seconds = some ((seconds : Int) * nanosecondsPerSecond) := by
  simp only [span?]
  rw [if_pos]
  omega

theorem span?_eq_none (seconds : Nat) (long : longestSpan < seconds * nanosecondsPerSecond) : span? seconds = none := by
  simp only [span?]
  rw [if_neg]
  omega

/-- What does not fit a word is longer than the longest span by far. -/
theorem long_of_signedWord?_eq_none {seconds : Nat} (refused : Text.signedWord? seconds = none) :
    longestSpan < seconds * nanosecondsPerSecond := by
  have large : ¬ seconds < Text.wordLimit / 2 := by
    simpa [Text.signedWord?] using refused
  have limit : Text.wordLimit / 2 = 9223372036854775808 := rfl
  rw [longestSpan_eq, nanosecondsPerSecond]
  omega

theorem eq_of_signedWord? {seconds : Nat} {word : Int} (fits : Text.signedWord? seconds = some word) :
    word = seconds := by
  unfold Text.signedWord? at fits
  split at fits
  · exact (Option.some.inj fits).symm
  · contradiction

/-- The cases are those of the conversion: no word, a word that is too long a span, or a span. -/
theorem spanOf_eq_min (seconds : Nat) : spanOf seconds = min (seconds * nanosecondsPerSecond) longestSpan := by
  unfold spanOf
  cases word : Text.signedWord? seconds with
  | none =>
    have long := long_of_signedWord?_eq_none word
    rw [Option.bind_none, Option.getD_none]
    omega
  | some value =>
    obtain rfl := eq_of_signedWord? word
    rw [Option.bind_some]
    by_cases short : seconds * nanosecondsPerSecond ≤ longestSpan
    · rw [span?_eq_some seconds short, Option.getD_some]
      omega
    · rw [span?_eq_none seconds (Nat.lt_of_not_le short), Option.getD_none]
      omega

theorem age_bounds (listing : Listing) (now : Instant) : (listing.age now).natAbs < longestSpan := by
  have near := now.since_bounds listing.cachedAt
  rw [nanosecondsPerSecond] at near
  rw [age, longestSpan_eq]
  omega

theorem isStale_iff : listing.isStale now lifetime ↔ lifetime * nanosecondsPerSecond ≤ listing.age now := by
  have bounded := listing.age_bounds now
  rw [isStale, decide_eq_true_iff, spanOf_eq_min]
  omega

/-- A listing is stale when at least its lifetime has passed since it was fetched, whatever the lifetime and the two
instants are. Both sides of the comparison are spans of time, and so a longer lifetime keeps a fresh listing fresh. -/
theorem stale_when_lifetime_passed (listing : Listing) (now : Instant) :
    (∀ lifetime : Nat, listing.isStale now lifetime ↔ lifetime * nanosecondsPerSecond ≤ listing.age now) ∧
    (∀ lifetime : Nat, 0 ≤ spanOf lifetime ∧ (spanOf lifetime).natAbs ≤ longestSpan) ∧
    (listing.age now).natAbs ≤ longestSpan ∧
    (¬ now.isLeap → ¬ listing.cachedAt.isLeap → listing.age now = now.position - listing.cachedAt.position) ∧
    ∀ lifetime longer : Nat, lifetime ≤ longer → ¬ listing.isStale now lifetime → ¬ listing.isStale now longer := by
  refine ⟨fun lifetime => isStale_iff, ?_, Nat.le_of_lt (listing.age_bounds now), ?_, ?_⟩
  · intro lifetime
    rw [spanOf_eq_min]
    omega
  · intro plain ordinary
    rw [age, Instant.since_eq, Instant.leapSeconds_eq_zero plain ordinary]
    omega
  · intro lifetime longer more fresh
    rw [isStale_iff] at fresh ⊢
    have scaled := Nat.mul_le_mul_right nanosecondsPerSecond more
    omega

section
private theorem whole_second : 0 < 2 * nanosecondsPerSecond := by decide

private def hourly : Listing := ⟨"org.sample:clock", ⟨1000000000, 0, by decide, whole_second⟩, []⟩

private def hourLater : Instant := ⟨1000003600, 0, by decide, whole_second⟩

/-- An hour is the whole age to the second, and the longest lifetime that fits a word is longer. -/
theorem stale_when_lifetime_passed_hour : ¬ hourLater.isLeap ∧ ¬ hourly.cachedAt.isLeap ∧
    hourly.age hourLater = 3600 * nanosecondsPerSecond ∧ hourly.isStale hourLater 3600 ∧
    ¬ hourly.isStale hourLater 3601 ∧ ¬ hourly.isStale hourLater (Text.wordLimit - 1) := by
  obtain ⟨exact, -, -, ordinary, longer⟩ := stale_when_lifetime_passed hourly hourLater
  have plain : ¬ hourLater.isLeap := by decide
  have started : ¬ hourly.cachedAt.isLeap := by decide
  have aged : hourly.age hourLater = 3600 * nanosecondsPerSecond := by
    rw [ordinary plain started]
    decide
  have fresh : ¬ hourly.isStale hourLater 3601 := by
    rw [exact, aged]
    decide
  refine ⟨plain, started, aged, ?_, fresh, longer 3601 _ (by decide) fresh⟩
  rw [exact, aged]
  decide

end

/-- A listing with a time to come is fresh even without a lifetime. -/
example : ¬ Listing.isStale ⟨"org.sample:clock", { seconds := 1 }, []⟩ { seconds := 0 } 0 := by
  decide

end Listing
end Linkage
