import TextTemplate.Path

/-!
# The name that a path starts with

The reader of paths and the search for the root read the first key of a path in the same way.

* `rootName?_of_parse?`: a path that can be read starts with its root name.
-/

namespace TextTemplate.Path

theorem fields_eq_cons (text : List Char) :
    ∃ more, fields text = text.takeWhile (· != '.') :: more := by
  induction text with
  | nil => exact ⟨[], rfl⟩
  | cons c rest ih =>
    obtain ⟨more, hRest⟩ := ih
    rw [fields]
    by_cases hc : c = '.'
    · rw [if_pos hc, hc]
      exact ⟨fields rest, rfl⟩
    · rw [if_neg hc, hRest, List.takeWhile_cons_of_pos (by simpa using hc)]
      exact ⟨more, rfl⟩

/-- The first key ends at the first point or bracket, whichever is looked for first. -/
theorem takeWhile_takeWhile_root (text : List Char) :
    (text.takeWhile (· != '.')).takeWhile (· != '[')
      = text.takeWhile fun c => c != '.' && c != '[' := by
  induction text with
  | nil => rfl
  | cons c rest ih =>
    simp only [List.takeWhile_cons]
    cases hDot : c != '.' with
    | false => rfl
    | true =>
      cases hBracket : c != '[' with
      | false => simp [hBracket]
      | true => simp [hBracket, ih]

theorem field?_eq_some {text : List Char} {segments : List Segment}
    (h : field? text = some segments) :
    ∃ rest, Text.trim (text.takeWhile (· != '[')) ≠ [] ∧
      segments = .key (String.ofList (Text.trim (text.takeWhile (· != '[')))) :: rest := by
  unfold field? at h
  dsimp only at h
  split at h
  · cases h
  · rename_i hName
    obtain ⟨rest, -, rfl⟩ := Option.map_eq_some_iff.mp h
    exact ⟨rest, hName, rfl⟩

/-- A path that can be read starts with its root name. -/
theorem rootName?_of_parse? {text : String} {path : Path} (h : parse? text = some path) :
    ∃ root rest, path = .key root :: rest ∧ rootName? text = some root := by
  unfold parse? parseChars? at h
  dsimp only at h
  split at h
  · cases h
  · obtain ⟨parts, hParts, rfl⟩ := Option.map_eq_some_iff.mp h
    obtain ⟨more, hFields⟩ := fields_eq_cons (Text.trim text.toList)
    rw [hFields, List.mapM_cons] at hParts
    obtain ⟨first, hFirst, hParts⟩ := Option.bind_eq_some_iff.mp hParts
    obtain ⟨others, -, hParts⟩ := Option.bind_eq_some_iff.mp hParts
    obtain ⟨rest, hName, rfl⟩ := field?_eq_some hFirst
    cases hParts
    rw [takeWhile_takeWhile_root] at hName
    refine ⟨_, rest ++ others.flatten, rfl, ?_⟩
    unfold rootName?
    dsimp only
    rw [if_neg hName, takeWhile_takeWhile_root]

end TextTemplate.Path
