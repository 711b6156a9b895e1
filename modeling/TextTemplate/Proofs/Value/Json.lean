import TextTemplate.Proofs.Number.Integers
import TextTemplate.Value.Json

/-!
# Values survive as documents

A whole number below `2 ^ 63` is written as an integer and every other finite number as it is, so a
value that holds finite numbers only is read back as an equal one. Only the sign of a zero is lost.

* `WrittenAs`: the documents that stand for a value, at every depth.
* `writtenAs_iff`: there is one for every value of finite numbers, the one that is written.
* `WrittenAs.same_ofJson`: it is read as an equal value.
* `json_faithful`: the statement.
-/

namespace TextTemplate.Value

mutual

/-- Is every number in the value finite, at any depth? -/
def allFinite : Value → Bool
  | .number x => x.isFinite
  | .list items => itemsFinite items
  | .object fields => fieldsFinite fields
  | .null | .boolean _ | .text _ => true

def itemsFinite : List Value → Bool
  | [] => true
  | v :: rest => v.allFinite && itemsFinite rest

def fieldsFinite : List (String × Value) → Bool
  | [] => true
  | (_, v) :: rest => v.allFinite && fieldsFinite rest

end

mutual

/-- A document stands for a value: numbers that are integers of less than 64 bits as these, other
finite numbers as they are, and lists and objects place by place, under the same names. -/
inductive WrittenAs : Value → Json → Prop
  | null : WrittenAs .null .null
  | boolean (b : Bool) : WrittenAs (.boolean b) (.boolean b)
  | integer {x : Number} {i : Int} (hInteger : x.IsInteger i) (hBound : i.natAbs < Nat.pow 2 63) :
    WrittenAs (.number x) (.integer i)
  | real {x : Number} (hFinite : x.isFinite = true)
    (hBound : ∀ i, x.IsInteger i → Nat.pow 2 63 ≤ i.natAbs) : WrittenAs (.number x) (.real x)
  | text (s : String) : WrittenAs (.text s) (.text s)
  | list {items : List Value} {documents : List Json} (hItems : ItemsWrittenAs items documents) :
    WrittenAs (.list items) (.list documents)
  | object {fields : List (String × Value)} {members : List (String × Json)}
    (hFields : FieldsWrittenAs fields members) : WrittenAs (.object fields) (.object members)

inductive ItemsWrittenAs : List Value → List Json → Prop
  | nil : ItemsWrittenAs [] []
  | cons {v : Value} {j : Json} {items : List Value} {documents : List Json}
    (hHead : WrittenAs v j) (hRest : ItemsWrittenAs items documents) :
    ItemsWrittenAs (v :: items) (j :: documents)

inductive FieldsWrittenAs : List (String × Value) → List (String × Json) → Prop
  | nil : FieldsWrittenAs [] []
  | cons {name : String} {v : Value} {j : Json} {fields : List (String × Value)}
    {members : List (String × Json)} (hHead : WrittenAs v j)
    (hRest : FieldsWrittenAs fields members) :
    FieldsWrittenAs ((name, v) :: fields) ((name, j) :: members)

end

/-! ## Numbers -/

theorem numberJson_of_isInteger {x : Number} {i : Int} (h : x.IsInteger i)
    (hBound : i.natAbs < Nat.pow 2 63) : numberJson x = .integer i := by
  rw [numberJson, Number.whole?_eq_some_iff.mpr h]
  exact if_pos hBound

theorem numberJson_of_bound {x : Number} (h : x.isFinite = true)
    (hBound : ∀ i, x.IsInteger i → Nat.pow 2 63 ≤ i.natAbs) : numberJson x = .real x := by
  rw [numberJson]
  split
  · rename_i i hWhole
    exact if_neg (Nat.not_lt.mpr (hBound i (Number.whole?_eq_some_iff.mp hWhole)))
  · exact if_pos h

theorem writtenAs_number {x : Number} (h : x.isFinite = true) :
    WrittenAs (.number x) (numberJson x) := by
  by_cases hInteger : ∃ i, x.IsInteger i ∧ i.natAbs < Nat.pow 2 63
  · obtain ⟨i, hInteger, hBound⟩ := hInteger
    rw [numberJson_of_isInteger hInteger hBound]
    exact .integer hInteger hBound
  · have hBound : ∀ i, x.IsInteger i → Nat.pow 2 63 ≤ i.natAbs :=
      fun i hi => Nat.not_lt.mp fun hLess => hInteger ⟨i, hi, hLess⟩
    rw [numberJson_of_bound h hBound]
    exact .real h hBound

/-! ## Values -/

mutual

theorem writtenAs_toJson {v : Value} (h : v.allFinite = true) : WrittenAs v v.toJson := by
  match v with
  | .null => exact .null
  | .boolean b => exact .boolean b
  | .number x => exact writtenAs_number h
  | .text s => exact .text s
  | .list items => exact .list (itemsWrittenAs_json h)
  | .object fields => exact .object (fieldsWrittenAs_json h)

theorem itemsWrittenAs_json {items : List Value} (h : itemsFinite items = true) :
    ItemsWrittenAs items (itemsJson items) := by
  match items with
  | [] => exact .nil
  | v :: rest =>
    obtain ⟨hHead, hRest⟩ := Bool.and_eq_true_iff.mp h
    exact .cons (writtenAs_toJson hHead) (itemsWrittenAs_json hRest)

theorem fieldsWrittenAs_json {fields : List (String × Value)} (h : fieldsFinite fields = true) :
    FieldsWrittenAs fields (fieldsJson fields) := by
  match fields with
  | [] => exact .nil
  | (name, v) :: rest =>
    obtain ⟨hHead, hRest⟩ := Bool.and_eq_true_iff.mp h
    exact .cons (writtenAs_toJson hHead) (fieldsWrittenAs_json hRest)

end

mutual

theorem WrittenAs.toJson_eq {v : Value} {j : Json} (h : WrittenAs v j) :
    v.allFinite = true ∧ v.toJson = j := by
  match h with
  | .null => exact ⟨rfl, rfl⟩
  | .boolean b => exact ⟨rfl, rfl⟩
  | .integer hInteger hBound =>
    obtain ⟨negative, m, rfl, -⟩ := id hInteger
    exact ⟨rfl, numberJson_of_isInteger hInteger hBound⟩
  | .real hFinite hBound => exact ⟨hFinite, numberJson_of_bound hFinite hBound⟩
  | .text s => exact ⟨rfl, rfl⟩
  | .list hItems =>
    obtain ⟨hFinite, hEq⟩ := hItems.json_eq
    exact ⟨hFinite, congrArg Json.list hEq⟩
  | .object hFields =>
    obtain ⟨hFinite, hEq⟩ := hFields.json_eq
    exact ⟨hFinite, congrArg Json.object hEq⟩

theorem ItemsWrittenAs.json_eq {items : List Value} {documents : List Json}
    (h : ItemsWrittenAs items documents) :
    itemsFinite items = true ∧ itemsJson items = documents := by
  match h with
  | .nil => exact ⟨rfl, rfl⟩
  | .cons hHead hRest =>
    obtain ⟨hFinite, hEq⟩ := hHead.toJson_eq
    obtain ⟨hFiniteRest, hEqRest⟩ := hRest.json_eq
    exact ⟨Bool.and_eq_true_iff.mpr ⟨hFinite, hFiniteRest⟩, by rw [itemsJson, hEq, hEqRest]⟩

theorem FieldsWrittenAs.json_eq {fields : List (String × Value)} {members : List (String × Json)}
    (h : FieldsWrittenAs fields members) :
    fieldsFinite fields = true ∧ fieldsJson fields = members := by
  match h with
  | .nil => exact ⟨rfl, rfl⟩
  | .cons hHead hRest =>
    obtain ⟨hFinite, hEq⟩ := hHead.toJson_eq
    obtain ⟨hFiniteRest, hEqRest⟩ := hRest.json_eq
    exact ⟨Bool.and_eq_true_iff.mpr ⟨hFinite, hFiniteRest⟩, by rw [fieldsJson, hEq, hEqRest]⟩

end

/-- There is one document for a value, and none for one with a number that is not finite. -/
theorem writtenAs_iff {v : Value} {j : Json} :
    WrittenAs v j ↔ v.allFinite = true ∧ v.toJson = j :=
  ⟨WrittenAs.toJson_eq, fun ⟨hFinite, hEq⟩ => hEq ▸ writtenAs_toJson hFinite⟩

mutual

theorem WrittenAs.same_ofJson {v : Value} {j : Json} (h : WrittenAs v j) :
    (ofJson j).same v = true := by
  match h with
  | .null => rfl
  | .boolean b => exact beq_self_eq_true b
  | .integer hInteger _ =>
    rw [ofJson, same]
    exact Number.same_ofInt hInteger
  | @WrittenAs.real x hFinite _ =>
    rw [ofJson, same]
    cases x with
    | finite negative m => exact Number.same_self_of_finite negative m
    | infinite | nan => cases hFinite
  | .text s => exact beq_self_eq_true s
  | .list hItems => exact hItems.sameItems_ofJson
  | .object hFields => exact hFields.sameFields_ofJson

theorem ItemsWrittenAs.sameItems_ofJson {items : List Value} {documents : List Json}
    (h : ItemsWrittenAs items documents) : sameItems (itemsOfJson documents) items = true := by
  match h with
  | .nil => rfl
  | .cons hHead hRest =>
    exact Bool.and_eq_true_iff.mpr ⟨hHead.same_ofJson, hRest.sameItems_ofJson⟩

theorem FieldsWrittenAs.sameFields_ofJson {fields : List (String × Value)}
    {members : List (String × Json)} (h : FieldsWrittenAs fields members) :
    sameFields (fieldsOfJson members) fields = true := by
  match h with
  | .nil => rfl
  | .cons hHead hRest =>
    rw [fieldsOfJson, sameFields, hHead.same_ofJson, hRest.sameFields_ofJson]
    simp

end

/-- An object keeps all its names, whatever stands under them. -/
theorem names_fieldsJson (fields : List (String × Value)) :
    Table.names (fieldsJson fields) = Table.names fields := by
  induction fields with
  | nil => rfl
  | cons field rest ih => exact congrArg (field.1 :: ·) ih

/-- A value of finite numbers is read back from its document, in which every number that is an
integer of less than 64 bits stands as that integer, every other one as itself, and every name of an
object is kept. -/
theorem json_faithful :
    (∀ v : Value, v.allFinite = true →
        (ofJson v.toJson).same v = true ∧ ∀ j, WrittenAs v j ↔ v.toJson = j) ∧
      ∀ fields members, (Value.object fields).toJson = .object members →
        Table.names members = Table.names fields := by
  refine ⟨fun v hFinite => ⟨(writtenAs_toJson hFinite).same_ofJson, fun j => ?_⟩,
    fun fields members h => ?_⟩
  · rw [writtenAs_iff, and_iff_right hFinite]
  · cases h
    exact names_fieldsJson fields

/-- Negative zero, the bound of the integers, and a fraction. -/
theorem json_faithful_bounds :
    let half := Number.ofDecimal false 5 (-1)
    let bound := Number.ofNat (Nat.pow 2 63)
    let v := Value.object
      [("bound", .number bound), ("list", .list [.number .negativeZero, .number half])]
    v.allFinite = true ∧ (ofJson v.toJson).same v = true ∧
      WrittenAs v (.object [("bound", .real bound), ("list", .list [.integer 0, .real half])]) := by
  intro half bound v
  have hFinite : v.allFinite = true := by decide +kernel
  obtain ⟨hSame, hWritten⟩ := json_faithful.1 v hFinite
  have hBound : numberJson bound = .real bound := by
    have hWhole : bound.whole? = some (Nat.pow 2 63 : Nat) := by decide +kernel
    rw [numberJson, hWhole]
    exact if_neg (by decide +kernel)
  have hHalf : numberJson half = .real half := by
    have hWhole : half.whole? = none := by decide +kernel
    rw [numberJson, hWhole]
    exact if_pos (by decide +kernel)
  have hZero : numberJson .negativeZero = .integer 0 :=
    numberJson_of_isInteger (Number.whole?_eq_some_iff.mp (by decide +kernel)) (by decide +kernel)
  refine ⟨hFinite, hSame, (hWritten _).mpr ?_⟩
  simp only [v, toJson, fieldsJson, itemsJson, hBound, hHalf, hZero]

end TextTemplate.Value
