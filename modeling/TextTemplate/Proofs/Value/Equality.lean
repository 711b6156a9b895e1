import TextTemplate.Value.Basic

/-!
# Equality of values

Values are equal if they are built alike, from numbers that are numerically equal. So a value that
holds not-a-number anywhere does not equal itself, and apart from such values equality is an
equivalence.

* `same_comm`, `same_trans`: equality is symmetric and transitive on all values.
* `same_self_iff`: a value equals itself just if it holds no not-a-number.
-/

namespace TextTemplate

namespace Number

theorem same_iff {x y : Number} :
    x.same y = true ↔ ∃ p, x.position? = some p ∧ y.position? = some p := by
  unfold same
  cases x.position? with
  | none => simp
  | some p =>
    cases y.position? with
    | none => simp
    | some q => simp [eq_comm (a := q)]

theorem same_comm (x y : Number) : x.same y = y.same x := by
  rw [Bool.eq_iff_iff, same_iff, same_iff]
  exact exists_congr fun p => and_comm

theorem same_trans {x y z : Number} (hxy : x.same y = true) (hyz : y.same z = true) :
    x.same z = true := by
  obtain ⟨p, hx, hy⟩ := same_iff.mp hxy
  obtain ⟨q, hy', hz⟩ := same_iff.mp hyz
  rw [← hy, hy'] at hx
  exact same_iff.mpr ⟨q, hx, hz⟩

theorem same_self_iff {x : Number} : x.same x = true ↔ x.isNaN = false := by
  rw [same_iff]
  cases x with
  | finite negative m => exact iff_of_true ⟨_, rfl, rfl⟩ rfl
  | infinite negative => exact iff_of_true ⟨_, rfl, rfl⟩ rfl
  | nan negative => exact iff_of_false (fun ⟨_, hNone, _⟩ => nomatch hNone) nofun

end Number

namespace Value

mutual

/-- Does the value hold not-a-number, at any depth? -/
def holdsNaN : Value → Bool
  | .number x => x.isNaN
  | .list items => itemsHoldNaN items
  | .object fields => fieldsHoldNaN fields
  | .null | .boolean _ | .text _ => false

def itemsHoldNaN : List Value → Bool
  | [] => false
  | v :: rest => v.holdsNaN || itemsHoldNaN rest

def fieldsHoldNaN : List (String × Value) → Bool
  | [] => false
  | (_, v) :: rest => v.holdsNaN || fieldsHoldNaN rest

end

mutual

theorem same_comm (a b : Value) : a.same b = b.same a := by
  match a with
  | .null => cases b <;> rfl
  | .boolean x =>
    cases b with
    | boolean y => exact BEq.comm
    | _ => rfl
  | .number x =>
    cases b with
    | number y => exact Number.same_comm x y
    | _ => rfl
  | .text s =>
    cases b with
    | text t => exact BEq.comm
    | _ => rfl
  | .list as =>
    cases b with
    | list bs => exact sameItems_comm as bs
    | _ => rfl
  | .object as =>
    cases b with
    | object bs => exact sameFields_comm as bs
    | _ => rfl

theorem sameItems_comm (as bs : List Value) : sameItems as bs = sameItems bs as := by
  match as with
  | [] => cases bs <;> rfl
  | a :: as =>
    cases bs with
    | nil => rfl
    | cons b bs => rw [sameItems, sameItems, same_comm a b, sameItems_comm as bs]

theorem sameFields_comm (as bs : List (String × Value)) : sameFields as bs = sameFields bs as := by
  match as with
  | [] => cases bs <;> rfl
  | (j, a) :: as =>
    cases bs with
    | nil => rfl
    | cons field bs =>
      obtain ⟨k, b⟩ := field
      have hName : (j == k) = (k == j) := BEq.comm
      rw [sameFields, sameFields, hName, same_comm a b, sameFields_comm as bs]

end

mutual

theorem same_trans {a b c : Value} (hab : a.same b = true) (hbc : b.same c = true) :
    a.same c = true := by
  match a with
  | .null =>
    cases b with
    | null => exact hbc
    | _ => cases hab
  | .boolean x =>
    cases b with
    | boolean y =>
      rw [same, beq_iff_eq] at hab
      exact hab ▸ hbc
    | _ => cases hab
  | .number x =>
    cases b with
    | number y =>
      cases c with
      | number z => exact Number.same_trans hab hbc
      | _ => cases hbc
    | _ => cases hab
  | .text s =>
    cases b with
    | text t =>
      rw [same, beq_iff_eq] at hab
      exact hab ▸ hbc
    | _ => cases hab
  | .list as =>
    cases b with
    | list bs =>
      cases c with
      | list cs => exact sameItems_trans hab hbc
      | _ => cases hbc
    | _ => cases hab
  | .object as =>
    cases b with
    | object bs =>
      cases c with
      | object cs => exact sameFields_trans hab hbc
      | _ => cases hbc
    | _ => cases hab

theorem sameItems_trans {as bs cs : List Value} (hab : sameItems as bs = true)
    (hbc : sameItems bs cs = true) : sameItems as cs = true := by
  match as with
  | [] =>
    cases bs with
    | nil => exact hbc
    | cons => cases hab
  | a :: as =>
    cases bs with
    | nil => cases hab
    | cons b bs =>
      cases cs with
      | nil => cases hbc
      | cons c cs =>
        rw [sameItems, Bool.and_eq_true] at hab hbc ⊢
        exact ⟨same_trans hab.1 hbc.1, sameItems_trans hab.2 hbc.2⟩

theorem sameFields_trans {as bs cs : List (String × Value)} (hab : sameFields as bs = true)
    (hbc : sameFields bs cs = true) : sameFields as cs = true := by
  match as with
  | [] =>
    cases bs with
    | nil => exact hbc
    | cons => cases hab
  | (i, a) :: as =>
    cases bs with
    | nil => cases hab
    | cons field bs =>
      obtain ⟨j, b⟩ := field
      cases cs with
      | nil => cases hbc
      | cons field cs =>
        obtain ⟨k, c⟩ := field
        simp only [sameFields, Bool.and_eq_true, beq_iff_eq] at hab hbc ⊢
        exact ⟨⟨hab.1.1.trans hbc.1.1, same_trans hab.1.2 hbc.1.2⟩, sameFields_trans hab.2 hbc.2⟩

end

mutual

theorem same_self_iff (v : Value) : v.same v = true ↔ v.holdsNaN = false := by
  match v with
  | .null => exact iff_of_true rfl rfl
  | .boolean b => exact iff_of_true (beq_self_eq_true b) rfl
  | .number x => exact Number.same_self_iff
  | .text s => exact iff_of_true (beq_self_eq_true s) rfl
  | .list items => exact sameItems_self_iff items
  | .object fields => exact sameFields_self_iff fields

theorem sameItems_self_iff (items : List Value) :
    sameItems items items = true ↔ itemsHoldNaN items = false := by
  match items with
  | [] => exact iff_of_true rfl rfl
  | v :: rest =>
    rw [sameItems, itemsHoldNaN, Bool.and_eq_true, Bool.or_eq_false_iff, same_self_iff v,
      sameItems_self_iff rest]

theorem sameFields_self_iff (fields : List (String × Value)) :
    sameFields fields fields = true ↔ fieldsHoldNaN fields = false := by
  match fields with
  | [] => exact iff_of_true rfl rfl
  | (name, v) :: rest =>
    rw [sameFields, fieldsHoldNaN, beq_self_eq_true, Bool.true_and, Bool.and_eq_true,
      Bool.or_eq_false_iff, same_self_iff v, sameFields_self_iff rest]

end

end Value

end TextTemplate
