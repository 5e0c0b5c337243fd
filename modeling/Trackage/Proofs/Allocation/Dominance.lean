import Trackage.Allocation.Basic

/-!
Earlier trains dominate later ones. What a train is granted depends on what all trains occupy, but of
the requests only on its own and those of the trains before it.
-/

namespace Trackage

/-- With a request for each train there is an answer for each train. -/
theorem exists_grantFrom? (granted : LocationSet) (before : List LocationSet)
    {after : List LocationSet} {requests : List (List Segment)}
    (requested : after.length ≤ requests.length) :
    ∃ rows, grantFrom? granted before after requests = some rows ∧ rows.length = after.length := by
  induction after generalizing granted before requests with
  | nil => exact ⟨[], by simp [grantFrom?], rfl⟩
  | cons own after ih =>
    cases requests with
    | nil => simp at requested
    | cons request requests =>
      let row := grant (forbiddenFor granted before after) request
      obtain ⟨rows, answered, count⟩ := ih (granted.union (.ofList (locationsOf row)))
        (before ++ [own]) (Nat.le_of_succ_le_succ requested)
      exact ⟨row :: rows, by simp only [grantFrom?, answered, row, Option.map_some], by simp [count]⟩

/-- Where a train has no request there is no answer. -/
theorem grantFrom?_eq_none (granted : LocationSet) (before : List LocationSet)
    {after : List LocationSet} {requests : List (List Segment)}
    (missing : requests.length < after.length) : grantFrom? granted before after requests = none := by
  induction after generalizing granted before requests with
  | nil => simp at missing
  | cons own after ih =>
    cases requests with
    | nil => rfl
    | cons request requests =>
      simp only [grantFrom?, Option.map_eq_none_iff]
      exact ih _ _ (Nat.lt_of_succ_lt_succ missing)

/-- Two rows of requests that begin alike are answered alike as far as they are alike. -/
theorem grantFrom?_congr {granted : LocationSet} {before after : List LocationSet}
    {requests others rows changed : List (List Segment)}
    (answered : grantFrom? granted before after requests = some rows)
    (also_answered : grantFrom? granted before after others = some changed) {i : Nat}
    (agree : ∀ j ≤ i, requests[j]? = others[j]?) : ∀ j ≤ i, rows[j]? = changed[j]? := by
  -- The first train has one request in both, so that the next ones find the same granted to it.
  induction after generalizing granted before requests others rows changed i with
  | nil =>
    simp only [grantFrom?, Option.some.injEq] at answered also_answered
    subst answered also_answered
    exact fun _ _ => rfl
  | cons own after ih =>
    have first := agree 0 (Nat.zero_le i)
    cases requests with
    | nil => simp [grantFrom?] at answered
    | cons request requests =>
      cases others with
      | nil => simp [grantFrom?] at also_answered
      | cons other others =>
        obtain rfl : request = other := by simpa using first
        simp only [grantFrom?, Option.map_eq_some_iff] at answered also_answered
        obtain ⟨later, later_answered, rfl⟩ := answered
        obtain ⟨later', later_answered', rfl⟩ := also_answered
        intro j within
        cases j with
        | zero => rfl
        | succ j =>
          simp only [List.getElem?_cons_succ]
          refine ih later_answered later_answered' (fun k below => ?_) j (Nat.le_refl j)
          simpa using agree (k + 1) (by omega)

theorem exists_allocate? {occupied requested : List (List Segment)}
    (lengths : occupied.length ≤ requested.length) :
    ∃ allocated, allocate? occupied requested = some allocated ∧
      allocated.length = occupied.length := by
  have held : (occupied.map fun route => LocationSet.ofList (locationsOf route)).length ≤
      requested.length := by rwa [List.length_map]
  obtain ⟨allocated, answered, count⟩ := exists_grantFrom? .empty [] held
  exact ⟨allocated, answered, by rw [count, List.length_map]⟩

theorem allocate?_eq_none {occupied requested : List (List Segment)}
    (missing : requested.length < occupied.length) : allocate? occupied requested = none :=
  grantFrom?_eq_none .empty [] (by rwa [List.length_map])

/-- No request of a later train changes what an earlier one is granted. -/
theorem allocate?_congr {occupied requested others allocated changed : List (List Segment)}
    (answered : allocate? occupied requested = some allocated)
    (also_answered : allocate? occupied others = some changed) {i : Nat}
    (agree : ∀ j ≤ i, requested[j]? = others[j]?) : ∀ j ≤ i, allocated[j]? = changed[j]? :=
  grantFrom?_congr answered also_answered agree

end Trackage
