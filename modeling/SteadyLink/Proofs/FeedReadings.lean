import Mathlib.Data.List.Induction
import Mathlib.Tactic.Lemma
import SteadyLink.Metrics.Feed

/-!
# The readings of a feed

What a feed shows is a function of all that reached it. Snapshots from the channel count from the last
initial one on, merged in their order; what the owner supplied counts only as long as there is none,
and then the last of it. Payloads that are no snapshots leave no trace.
-/

namespace SteadyLink.Proofs

open MetricsSnapshot

/-- What can reach a feed. -/
inductive FeedInput where
  /-- A snapshot that the owner supplies. -/
  | seed (snapshot : MetricsSnapshot)
  /-- A payload from the channel. -/
  | event (role : SnapshotRole) (payload : Json)

/-- The feed after something has reached it. -/
def feedAfter (f : MetricsFeed) : FeedInput → MetricsFeed
  | .seed snapshot => (f.seed snapshot).2
  | .event role payload => f.receive role payload

/-- The feed after a whole history. -/
def feedAfterAll (f : MetricsFeed) (history : List FeedInput) : MetricsFeed :=
  history.foldl feedAfter f

/-! ## What is to be shown -/

/-- A snapshot from the channel. -/
abbrev Arrival := SnapshotRole × MetricsSnapshot

/-- The snapshots that came over the channel, in their order. -/
def snapshotsIn (history : List FeedInput) : List Arrival :=
  history.filterMap fun
    | .event role payload => (ofJson payload).toOption.map (role, ·)
    | .seed _ => none

def lastSeed (history : List FeedInput) : Option MetricsSnapshot :=
  (history.filterMap fun
    | .seed snapshot => some snapshot
    | .event .. => none).getLast?

/-- The snapshots from the last initial one on; all of them, if there is none. -/
def sinceInitial : List Arrival → List Arrival
  | [] => []
  | a :: later => if later.any (·.1 = .initial) then sinceInitial later else a :: later

/-- The snapshots merged into the first one. -/
def mergeAll : List Arrival → Option MetricsSnapshot
  | [] => none
  | a :: later => some (later.foldl (fun s b => s.merge b.2) a.2)

/-- The reading that a history calls for. -/
def expected (history : List FeedInput) : Option MetricsReading :=
  match mergeAll (sinceInitial (snapshotsIn history)) with
  | some snapshot => some ⟨snapshot, .channel⟩
  | none => (lastSeed history).map (⟨·, .fallback⟩)

section Histories

variable {history : List FeedInput} {role : SnapshotRole} {payload : Json}

/-- Null and objects are snapshots, and nothing else is. -/
lemma ofJson_ok_iff : (∃ s, ofJson payload = .ok s) ↔
    payload = .null ∨ ∃ fields, payload = .obj fields := by
  cases payload <;> simp [ofJson]

lemma snapshotsIn_append (history later : List FeedInput) :
    snapshotsIn (history ++ later) = snapshotsIn history ++ snapshotsIn later := List.filterMap_append

lemma sinceInitial_snoc (l : List Arrival) (a : Arrival) :
    sinceInitial (l ++ [a]) = if a.1 = .initial then [a] else sinceInitial l ++ [a] := by
  induction l with
  | nil => split <;> rfl
  | cons b l ih =>
    rw [List.cons_append, sinceInitial, sinceInitial, ih]
    by_cases initial : a.1 = .initial
    · simp [initial]
    · simp only [initial, List.any_append, List.any_cons, List.any_nil]
      split <;> simp_all

lemma mergeAll_snoc (l : List Arrival) (a : Arrival) :
    mergeAll (l ++ [a]) = some ((mergeAll l).elim a.2 (·.merge a.2)) := by
  cases l with
  | nil => rfl
  | cons b l => simp [mergeAll, List.foldl_append]

lemma mergeAll_none_iff {l : List Arrival} : mergeAll (sinceInitial l) = none ↔ l = [] := by
  induction l with
  | nil => simp [sinceInitial, mergeAll]
  | cons a l ih =>
    rw [sinceInitial]
    split
    · next later =>
      rw [ih]
      constructor
      · intro none
        simp [none] at later
      · simp
    · simp [mergeAll]

/-- The source is the channel as soon as one snapshot has come over it. -/
lemma expected_source : (expected history).map MetricsReading.source = some .channel ↔
    snapshotsIn history ≠ [] := by
  rw [Ne, ← mergeAll_none_iff]
  unfold expected
  cases mergeAll (sinceInitial (snapshotsIn history)) with
  | some snapshot => simp
  | none => cases lastSeed history <;> simp

lemma expected_seed (history : List FeedInput) (snapshot : MetricsSnapshot) :
    expected (history ++ [.seed snapshot]) =
      if snapshotsIn history = [] then some ⟨snapshot, .fallback⟩ else expected history := by
  have same : snapshotsIn (history ++ [.seed snapshot]) = snapshotsIn history := by
    rw [snapshotsIn_append]
    exact List.append_nil _
  have last : lastSeed (history ++ [.seed snapshot]) = some snapshot := by
    simp [lastSeed, List.filterMap_append]
  unfold expected
  rw [same, last]
  cases merged : mergeAll (sinceInitial (snapshotsIn history)) with
  | none => rw [if_pos (mergeAll_none_iff.mp merged), Option.map_some]
  | some newest =>
    rw [if_neg]
    intro none
    rw [mergeAll_none_iff.mpr none] at merged
    cases merged

lemma expected_event (history : List FeedInput) (role : SnapshotRole) (payload : Json) :
    expected (history ++ [.event role payload]) =
      match ofJson payload with
      | .ok snapshot => some (MetricsReading.receive (expected history) role snapshot)
      | .error _ => expected history := by
  have seeds : lastSeed (history ++ [.event role payload]) = lastSeed history := by
    simp [lastSeed, List.filterMap_append]
  cases read : ofJson payload with
  | error e =>
    have none : snapshotsIn [.event role payload] = [] := by simp [snapshotsIn, read, Except.toOption]
    unfold expected
    rw [snapshotsIn_append, none, List.append_nil, seeds]
  | ok snapshot =>
    have one : snapshotsIn [.event role payload] = [(role, snapshot)] := by
      simp [snapshotsIn, read, Except.toOption]
    unfold expected
    rw [snapshotsIn_append, one, sinceInitial_snoc]
    cases role with
    | initial => rfl
    | update =>
      rw [if_neg nofun, mergeAll_snoc]
      cases mergeAll (sinceInitial (snapshotsIn history)) with
      | some older => rfl
      | none => cases lastSeed history <;> rfl

end Histories

section Feeds

variable {f : MetricsFeed} {history : List FeedInput}

/-- A seed is turned down exactly if the reading is from the channel. -/
lemma seed?_none_iff (current : Option MetricsReading) (snapshot : MetricsSnapshot) :
    MetricsReading.seed? current snapshot = none ↔
      current.map MetricsReading.source = some .channel := by
  rcases current with _ | ⟨_, _ | _⟩ <;> simp [MetricsReading.seed?]

lemma seed?_some (current : Option MetricsReading) (snapshot : MetricsSnapshot) {reading}
    (h : MetricsReading.seed? current snapshot = some reading) :
    reading = ⟨snapshot, .fallback⟩ := by
  rcases current with _ | ⟨_, _ | _⟩ <;> simp_all [MetricsReading.seed?]

/-- A feed that shows what its history calls for takes a seed as long as nothing has arrived. -/
lemma seed_taken (h : f.reading = expected history) (snapshot : MetricsSnapshot) :
    (f.seed snapshot).1 = true ↔ snapshotsIn history = [] := by
  have refused := (seed?_none_iff f.reading snapshot).trans (h ▸ expected_source)
  unfold MetricsFeed.seed
  cases seeded : MetricsReading.seed? f.reading snapshot with
  | none => simpa using refused.mp seeded
  | some reading => simpa [seeded] using refused

/-- A feed that shows what its history calls for does so after one more input. -/
lemma reading_step (h : f.reading = expected history) (input : FeedInput) :
    (feedAfter f input).reading = expected (history ++ [input]) := by
  cases input with
  | seed snapshot =>
    have taken := seed_taken h snapshot
    rw [expected_seed]
    show (f.seed snapshot).2.reading = _
    unfold MetricsFeed.seed at taken ⊢
    cases seeded : MetricsReading.seed? f.reading snapshot with
    | none => rw [seeded] at taken; rw [if_neg (by simpa using taken)]; exact h
    | some reading =>
      rw [seeded] at taken
      rw [if_pos (taken.mp rfl), ← seed?_some _ _ seeded]
  | event role payload =>
    rw [expected_event]
    show (f.receive role payload).reading = _
    unfold MetricsFeed.receive
    cases ofJson payload with
    | error e => exact h
    | ok snapshot => rw [← h]

lemma reading_run (h : f.reading = expected history) (later : List FeedInput) :
    (feedAfterAll f later).reading = expected (history ++ later) := by
  induction later using List.reverseRecOn with
  | nil => rw [List.append_nil]; exact h
  | append_singleton later input ih =>
    have last : feedAfterAll f (later ++ [input]) = feedAfter (feedAfterAll f later) input :=
      List.foldl_append
    rw [last, ← List.append_assoc]
    exact reading_step ih input

end Feeds

/-- What a feed with this history owes to its owner. -/
structure ReadingLaw (f : MetricsFeed) (history : List FeedInput) : Prop where
  latest : f.latest.1.2 = expected history
  /-- The owner may supply a snapshot until one has come over the channel. -/
  seeds : ∀ snapshot, (f.seed snapshot).1 = true ↔ snapshotsIn history = []
  /-- The channel stays the source, whatever comes later. -/
  lasts : snapshotsIn history ≠ [] → ∀ later,
    (feedAfterAll f later).latest.1.2.map MetricsReading.source = some .channel

/-- A feed that shows what its history calls for obeys the law. -/
lemma reading_law {f : MetricsFeed} {history : List FeedInput} (h : f.reading = expected history) :
    ReadingLaw f history where
  latest := h
  seeds := seed_taken h
  lasts := by
    intro arrived later
    show (feedAfterAll f later).reading.map _ = _
    rw [reading_run h later]
    refine expected_source.mpr ?_
    rw [snapshotsIn_append]
    exact List.append_ne_nil_of_left_ne_nil arrived _

/-- The reading of a feed follows from its history, in which null and objects count as snapshots and
other payloads do not. -/
theorem readings_follow_history (category : MetricsCategory) (refresh : Duration)
    (subscriptions : Nat × Nat) (history : List FeedInput) :
    ReadingLaw (feedAfterAll (.starting category refresh subscriptions) history) history ∧
      ∀ payload, (∃ s, ofJson payload = .ok s) ↔
        payload = .null ∨ ∃ fields, payload = .obj fields := by
  have fresh : (MetricsFeed.starting category refresh subscriptions).reading = expected [] := rfl
  exact ⟨reading_law (reading_run fresh history), fun payload => ofJson_ok_iff⟩

end SteadyLink.Proofs
