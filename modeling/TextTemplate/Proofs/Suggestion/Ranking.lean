import Mathlib.Data.Bool.Basic
import Mathlib.Data.List.Sort
import Mathlib.Data.Prod.Lex
import Mathlib.Data.String.Basic
import TextTemplate.Proofs.Suggestion.Children

/-!
# Completions in order of rank

The suggestions that start with what is typed are given in an order that depends on them alone, and
not on the order in which they were found.

* `ranksBefore_iff`: suggestions are ordered by their ranks.
* `rank_inj`: no two suggestions of different expressions or kinds have the same rank.
* `starting_ranked`, `Ranked.unique`: there is one order by rank, and completions are given in it.
* `complete_ranked`: the statement for what is typed outside of calls and not behind a point.
-/

namespace TextTemplate

namespace SuggestionSettings

/-- As many completions as are asked for. -/
def cut (settings : SuggestionSettings) (found : List Suggestion) : List Suggestion :=
  match settings.limit with
  | some limit => found.take limit
  | none => found

variable (settings : SuggestionSettings)

theorem cut_nil : settings.cut [] = [] := by
  unfold cut
  cases settings.limit with
  | none => rfl
  | some limit => exact List.take_nil

theorem mem_of_mem_cut {found : List Suggestion} {s : Suggestion} (h : s ∈ settings.cut found) :
    s ∈ found := by
  unfold cut at h
  split at h
  · exact List.mem_of_mem_take h
  · exact h

/-- Completions that correspond one by one still do when there are too many. -/
theorem forall₂_cut {R : Suggestion → Suggestion → Prop} {found given : List Suggestion}
    (h : List.Forall₂ R found given) :
    List.Forall₂ R (settings.cut found) (settings.cut given) := by
  unfold cut
  cases settings.limit with
  | none => exact h
  | some limit => exact List.forall₂_take limit h

end SuggestionSettings

namespace Suggestion

/-- The limit is applied in the end. -/
theorem complete_eq_cut (settings : SuggestionSettings) (all : List Suggestion)
    (partialText : String) : complete settings all partialText
      = settings.cut (complete { settings with limit := none } all partialText) := rfl

theorem complete_closed {settings : SuggestionSettings} {all : List Suggestion}
    {partialText : String} (h : openArgument? (typed partialText) = none) :
    complete settings all partialText
      = settings.cut (forFragment settings all (Text.trim (typed partialText))) := by
  unfold complete
  dsimp only
  rw [h]
  rfl

/-! ## Ranks -/

/-- Ranks are compared from left to right: is it no exact match, how deep is it, is it a function,
and the expression itself. -/
def rank (fragment : String) (s : Suggestion) : Bool ×ₗ Nat ×ₗ Bool ×ₗ String :=
  toLex (s.expression != fragment, toLex (s.depth, toLex (s.isFunction, s.expression)))

/-- A difference decides; without one, the rest does. -/
theorem if_differ_iff {α : Type} [LinearOrder α] {x y : α} {differ less rest : Bool}
    (hDiffer : differ = true ↔ x ≠ y) (hLess : x ≠ y → (less = true ↔ x < y)) :
    (if differ then less else rest) = true ↔ x < y ∨ x = y ∧ rest = true := by
  by_cases h : x = y
  · rw [if_neg (mt hDiffer.mp (not_not.mpr h)), h]
    simp
  · rw [if_pos (hDiffer.mpr h), hLess h]
    simp [h]

theorem ranksBefore_iff {fragment : String} {a b : Suggestion} :
    ranksBefore fragment a b = true ↔ rank fragment a < rank fragment b := by
  simp only [rank, Prod.Lex.toLex_lt_toLex]
  unfold ranksBefore
  refine (if_differ_iff ?_ ?_).trans (or_congr_right (and_congr_right fun _ =>
    (if_differ_iff ?_ ?_).trans (or_congr_right (and_congr_right fun _ =>
      (if_differ_iff ?_ ?_).trans (or_congr_right (and_congr_right fun _ => decide_eq_true_iff))))))
  · simp [bne]
  · intro hNe
    unfold bne at hNe ⊢
    revert hNe
    generalize (a.expression == fragment) = x
    generalize (b.expression == fragment) = y
    decide +revert
  · exact bne_iff_ne
  · exact fun _ => decide_eq_true_iff
  · exact bne_iff_ne
  · generalize a.isFunction = x
    generalize b.isFunction = y
    decide +revert

theorem rank_inj {fragment : String} {a b : Suggestion} (h : rank fragment a = rank fragment b) :
    a.expression = b.expression ∧ a.isFunction = b.isFunction := by
  simp only [rank, toLex_inj, Prod.mk.injEq] at h
  exact ⟨h.2.2.2, h.2.2.1⟩

/-! ## Suggestions by rank -/

/-- The suggestions that start with a fragment, each as often as it is suggested, by ascending ranks
that differ. -/
structure Ranked (all : List Suggestion) (fragment : String) (found : List Suggestion) : Prop where
  members : found.Perm (all.filter fun s => fragment.toList.isPrefixOf s.expression.toList)
  order : found.Pairwise fun a b => rank fragment a < rank fragment b

theorem Ranked.unique {all others found given : List Suggestion} {fragment : String}
    (h : Ranked all fragment found) (hOther : Ranked others fragment given)
    (hPerm : others.Perm all) : given = found := by
  have hMembers : given.Perm found :=
    (hOther.members.trans (hPerm.filter _)).trans h.members.symm
  refine hMembers.eq_of_pairwise (fun a b _ _ hab hba => ?_) hOther.order h.order
  exact absurd hba (lt_asymm hab)

/-- No expression is suggested twice, except once as a variable and once as a function. -/
def Distinct (all : List Suggestion) : Prop :=
  all.Pairwise fun a b => a.expression ≠ b.expression ∨ a.isFunction ≠ b.isFunction

theorem Distinct.perm {all others : List Suggestion} (h : Distinct all) (hPerm : others.Perm all) :
    Distinct others :=
  hPerm.symm.pairwise h fun hab => hab.imp Ne.symm Ne.symm

theorem starting_ranked {all : List Suggestion} (h : Distinct all) (fragment : String) :
    Ranked all fragment (starting all fragment) := by
  have hMembers := List.mergeSort_perm
    (all.filter fun s => fragment.toList.isPrefixOf s.expression.toList)
    fun a b => !ranksBefore fragment b a
  have hLess (a b : Suggestion) :
      (!ranksBefore fragment b a) = true ↔ rank fragment a ≤ rank fragment b := by
    rw [Bool.not_eq_true', Bool.eq_false_iff, ne_eq, ranksBefore_iff, not_lt]
  have hAscending := @List.pairwise_mergeSort _ (fun a b => !ranksBefore fragment b a)
    (fun a b c hab hbc => (hLess a c).mpr (((hLess a b).mp hab).trans ((hLess b c).mp hbc)))
    (fun a b => by simpa only [Bool.or_eq_true, hLess] using le_total _ _)
    (all.filter fun s => fragment.toList.isPrefixOf s.expression.toList)
  have hDistinct : Distinct (starting all fragment) :=
    Distinct.perm (List.Pairwise.filter _ h) hMembers
  refine ⟨hMembers, (hAscending.and hDistinct).imp fun {a b} ⟨hab, hNe⟩ => ?_⟩
  refine lt_of_le_of_ne ((hLess a b).mp hab) fun hRank => ?_
  obtain ⟨hExpression, hKind⟩ := rank_inj hRank
  exact hNe.elim (fun hNot => hNot hExpression) fun hNot => hNot hKind

theorem starting_eq_nil_iff {all : List Suggestion} {fragment : String} :
    starting all fragment = [] ↔ ∀ s ∈ all, ¬ fragment.toList <+: s.expression.toList := by
  unfold starting
  rw [← List.length_eq_zero_iff, List.length_mergeSort, List.length_eq_zero_iff,
    List.filter_eq_nil_iff]
  simp only [List.isPrefixOf_iff_prefix]

/-! ## The statement -/

theorem forFragment_of_not_point {settings : SuggestionSettings} {all : List Suggestion}
    {fragment : List Char} (h : fragment.getLast? ≠ some '.') :
    forFragment settings all fragment = match starting all (String.ofList fragment) with
      | [] => if settings.fuzzy && !(String.ofList fragment).isEmpty
          then aligned all (String.ofList fragment) else []
      | found => found := by
  unfold forFragment
  split
  · rename_i parent hReverse
    rw [List.getLast?_eq_head?_reverse, hReverse] at h
    exact absurd rfl h
  · rfl

theorem forFragment_of_starting {settings : SuggestionSettings} {all : List Suggestion}
    {fragment : List Char} (h : fragment.getLast? ≠ some '.') {s : Suggestion} (hs : s ∈ all)
    (hStart : fragment <+: s.expression.toList) :
    forFragment settings all fragment = starting all (String.ofList fragment) := by
  rw [forFragment_of_not_point h]
  split
  · rename_i hNone
    refine absurd ?_ (starting_eq_nil_iff.mp hNone s hs)
    rwa [String.toList_ofList]
  · rfl

/-- Outside of calls and not behind a point, the suggestions that start with what is typed are given
by rank; if there are none, nothing is given unless alignments are looked for. -/
theorem complete_ranked {settings : SuggestionSettings} {all : List Suggestion}
    {partialText : String} (hDistinct : Distinct all)
    (hClosed : openArgument? (typed partialText) = none)
    (hPoint : (Text.trim (typed partialText)).getLast? ≠ some '.') :
    let fragment := String.ofList (Text.trim (typed partialText))
    ((∃ s ∈ all, fragment.toList <+: s.expression.toList) →
        ∃ found, Ranked all fragment found ∧ (∀ other, Ranked all fragment other → other = found) ∧
          ∀ others : List Suggestion, others.Perm all →
            complete settings others partialText = settings.cut found) ∧
      ((∀ s ∈ all, ¬ fragment.toList <+: s.expression.toList) → settings.fuzzy = false →
        complete settings all partialText = []) := by
  intro fragment
  refine ⟨fun ⟨s, hs, hStart⟩ => ?_, fun hNone hFuzzy => ?_⟩
  · have hRanked := starting_ranked hDistinct fragment
    refine ⟨_, hRanked, fun other hOther => hRanked.unique hOther (.refl all),
      fun others hPerm => ?_⟩
    rw [String.toList_ofList] at hStart
    rw [complete_closed hClosed,
      forFragment_of_starting hPoint (hPerm.mem_iff.mpr hs) hStart]
    have hOthers := starting_ranked (hDistinct.perm hPerm) fragment
    exact congrArg settings.cut (hRanked.unique hOthers hPerm)
  · rw [complete_closed hClosed, forFragment_of_not_point hPoint, starting_eq_nil_iff.mpr hNone,
      hFuzzy, Bool.false_and, if_neg Bool.false_ne_true, settings.cut_nil]

/-- A variable, the function of the same name and a field of the variable. -/
theorem complete_ranked_user :
    let settings : SuggestionSettings := { limit := some 2 }
    let user := ofValue settings "user" false (.object [("name", .text "Ann")])
    let users := ofFunction "user" (Registry.undocumented "user" fun _ => .ok .null)
    let field := ofValue settings "user.name" true (.text "Ann")
    let all := [users, ofValue settings "other" false .null, user, field]
    Distinct all ∧ complete settings all " $\x7b user " = [user, users] ∧
      complete { settings with fuzzy := false } all "usr" = [] := by
  intro settings user users field all
  have hDistinct : Distinct all := by
    unfold Distinct
    decide +kernel
  have hRanked : Ranked all "user" [user, users, field] := by
    have hMembers : all.filter (fun s => "user".toList.isPrefixOf s.expression.toList)
        = [users, user, field] := by
      rw [List.filter_cons_of_pos (by decide +kernel), List.filter_cons_of_neg (by decide +kernel),
        List.filter_cons_of_pos (by decide +kernel), List.filter_cons_of_pos (by decide +kernel),
        List.filter_nil]
    refine ⟨hMembers ▸ .swap users user [field], ?_⟩
    simp only [← ranksBefore_iff]
    decide +kernel
  obtain ⟨hFound, -⟩ := @complete_ranked settings all " $\x7b user " hDistinct
    (by decide +kernel) (by decide +kernel)
  have hFragment : String.ofList (Text.trim (typed " $\x7b user ")) = "user" := by decide +kernel
  rw [hFragment] at hFound
  obtain ⟨found, -, hUnique, hComplete⟩ := hFound ⟨user, by simp [all], List.prefix_rfl⟩
  refine ⟨hDistinct, ?_, ?_⟩
  · rw [hComplete all (.refl all), ← hUnique _ hRanked]
    rfl
  · exact (complete_ranked hDistinct (by decide +kernel) (by decide +kernel)).2
      (by decide +kernel) rfl

end Suggestion

end TextTemplate
