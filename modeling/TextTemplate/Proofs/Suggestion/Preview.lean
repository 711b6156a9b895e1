import TextTemplate.Suggestion.Preview

/-!
# What previews leave out

A preview is cut at the limits of the settings and nowhere else, and says where it is cut: a text by
the mark at its end, an object by an entry under the mark that counts the fields that are hidden.
That entry shares its name with fields that are called like the mark.

* `preview_list`, `preview_object`: the preview of a value from those of its parts.
* `sampled_preview`: the entries of an object's preview.
* `preview_of_fits`: within the limits a value is its own preview.
* `not_announcesEveryCut`: a shown field that is called like the mark is lost.
* `preview_cut_at_limits`: the statement for all values.
-/

namespace TextTemplate

/-- No text and no object in a value, at any depth, exceeds the limits. -/
inductive Value.Fits (settings : SuggestionSettings) : Value → Prop
  | null : Fits settings .null
  | boolean (b : Bool) : Fits settings (.boolean b)
  | number (x : Number) : Fits settings (.number x)
  | text {s : String} : s.toList.length ≤ settings.sampleChars → Fits settings (.text s)
  | list {items : List Value} : (∀ v ∈ items, Fits settings v) → Fits settings (.list items)
  | object {fields : Fields} : fields.length ≤ settings.sampleKeys →
      (∀ entry ∈ fields, Fits settings entry.2) → Fits settings (.object fields)

namespace Value

variable {settings : SuggestionSettings}

/-! ## Previews from those of the parts -/

/-- The first fields of an object, each with the preview of its value. -/
def shownFields (settings : SuggestionSettings) (fields : Fields) : Fields :=
  (fields.take settings.sampleKeys).map fun entry => (entry.1, entry.2.preview settings)

/-- The entry that tells how many fields of an object are hidden. -/
def hiddenCount (settings : SuggestionSettings) (fields : Fields) : Value :=
  .text (toString (fields.length - settings.sampleKeys) ++ " more")

theorem previewItems_eq (items : List Value) :
    previewItems settings items = items.map (preview settings) := by
  induction items with
  | nil => rw [previewItems, List.map_nil]
  | cons v items ih => rw [previewItems, List.map_cons, ih]

theorem previewFields_eq (most : Nat) (fields : Fields) : previewFields settings most fields
    = (fields.take most).map fun entry => (entry.1, entry.2.preview settings) := by
  induction fields generalizing most with
  | nil =>
    rw [List.take_nil, List.map_nil]
    cases most <;> rw [previewFields]
  | cons entry fields ih =>
    cases most with
    | zero => rw [previewFields, List.take_zero, List.map_nil]
    | succ most => rw [previewFields, List.take_succ_cons, List.map_cons, ih]

theorem preview_list (items : List Value) :
    (list items).preview settings = .list (items.map (preview settings)) := by
  rw [preview, previewItems_eq]

theorem preview_object_of_le {fields : Fields} (h : fields.length ≤ settings.sampleKeys) :
    (object fields).preview settings = .object (shownFields settings fields) := by
  rw [preview, if_neg (Nat.not_lt.mpr h), previewFields_eq, shownFields]

theorem preview_object_of_lt {fields : Fields} (h : settings.sampleKeys < fields.length) :
    (object fields).preview settings = .object
      (Table.put (shownFields settings fields) cutMark (hiddenCount settings fields)) := by
  rw [preview, if_pos h, previewFields_eq, shownFields, hiddenCount]

theorem typeName_preview (v : Value) : (v.preview settings).typeName = v.typeName := by
  cases v with
  | object fields =>
    rcases Nat.lt_or_ge settings.sampleKeys fields.length with hMore | hFew
    · rw [preview_object_of_lt hMore, typeName, typeName]
    · rw [preview_object_of_le hFew, typeName, typeName]
  | _ => rfl

theorem preview_of_fits {v : Value} (h : v.Fits settings) : v.preview settings = v := by
  induction h with
  | text hLength => rw [preview, cutText, if_neg (Nat.not_lt.mpr hLength)]
  | list _ ih => rw [preview_list, List.map_congr_left ih, List.map_id']
  | object hLength _ ih =>
    rw [preview_object_of_le hLength, shownFields, List.take_of_length_le hLength]
    refine congrArg object ((List.map_congr_left fun entry hEntry => ?_).trans (List.map_id' _))
    rw [ih entry hEntry]
  | _ => rfl

/-! ## The entries of a preview -/

/-- The entries that stand for the fields of an object. -/
structure Sampled (settings : SuggestionSettings) (fields entries : Fields) : Prop where
  ordered : fields.Ordered → entries.Ordered
  whole : fields.length ≤ settings.sampleKeys → entries = shownFields settings fields
  cut : settings.sampleKeys < fields.length → ∀ name, entries.get? name =
    if name = cutMark then some (hiddenCount settings fields)
    else (shownFields settings fields).get? name
  added : settings.sampleKeys < fields.length → cutMark ∉ (shownFields settings fields).names →
    entries.Perm ((cutMark, hiddenCount settings fields) :: shownFields settings fields)

theorem ordered_shownFields {fields : Fields} (h : fields.Ordered) :
    (shownFields settings fields).Ordered :=
  List.pairwise_map.mpr (List.Pairwise.sublist (List.take_sublist _ _) h)

theorem sampled_preview (settings : SuggestionSettings) (fields : Fields) :
    ∃ entries, (object fields).preview settings = .object entries ∧
      Sampled settings fields entries := by
  rcases Nat.lt_or_ge settings.sampleKeys fields.length with hMore | hFew
  · refine ⟨_, preview_object_of_lt hMore, fun h => Table.ordered_put (ordered_shownFields h) _ _,
      fun hFew => absurd hMore (Nat.not_lt.mpr hFew), fun _ name => Table.get?_put _ _ _ _,
      fun _ hNew => Table.perm_put hNew _⟩
  · have hNot : ¬ settings.sampleKeys < fields.length := Nat.not_lt.mpr hFew
    exact ⟨_, preview_object_of_le hFew, ordered_shownFields, fun _ => rfl,
      fun hMore => absurd hMore hNot, fun hMore => absurd hMore hNot⟩

/-- The preview of an object holds all its shown fields, and one entry beside them just if there are
others. -/
def AnnouncesEveryCut : Prop :=
  ∀ (settings : SuggestionSettings) (fields : Fields), fields.Ordered →
    ∃ entries marker, (object fields).preview settings = .object entries ∧
      entries.Perm ((if settings.sampleKeys < fields.length then [marker] else []) ++
        shownFields settings fields)

/-- A field that is called like the mark gives way to the entry that counts the others. -/
theorem not_announcesEveryCut : ¬ AnnouncesEveryCut := by
  intro h
  have hOrdered :
      Table.Ordered [("...", Value.null), ("a", .null), ("b", .null), ("c", .null)] := by
    unfold Table.Ordered
    decide +kernel
  obtain ⟨entries, marker, hPreview, hPerm⟩ := h {} _ hOrdered
  have hEntries : entries = [("...", .text "1 more"), ("a", .null), ("b", .null)] :=
    (object.inj hPreview).symm
  rw [hEntries] at hPerm
  have hLength : 3 = 4 := hPerm.length_eq
  cases hLength

/-! ## The statement -/

theorem preview_text_cut {s : String} (h : settings.sampleChars < s.toList.length) :
    (text s).preview settings
      = .text (String.ofList (s.toList.take settings.sampleChars ++ cutMark.toList)) := by
  rw [preview, cutText, if_pos h]

/-- Previews are of the same type. Texts are cut to the first characters and the mark, lists are
taken item by item, objects are cut to the first fields and an entry under the mark, which replaces
a shown field of that name; what stays within the limits at every depth is not changed. -/
theorem preview_cut_at_limits (settings : SuggestionSettings) :
    (∀ v : Value, (v.preview settings).typeName = v.typeName) ∧
      (∀ s : String, ∃ t, (text s).preview settings = .text t ∧
        (s.toList.length ≤ settings.sampleChars → t = s) ∧
        (settings.sampleChars < s.toList.length →
          t.toList = s.toList.take settings.sampleChars ++ cutMark.toList)) ∧
      (∀ items, (list items).preview settings = .list (items.map (preview settings))) ∧
      (∀ fields, ∃ entries, (object fields).preview settings = .object entries ∧
        Sampled settings fields entries) ∧
      ∀ v : Value, v.Fits settings → v.preview settings = v := by
  refine ⟨typeName_preview, fun s => ?_, preview_list, sampled_preview settings,
    fun v => preview_of_fits⟩
  rcases Nat.lt_or_ge settings.sampleChars s.toList.length with hLong | hShort
  · exact ⟨_, preview_text_cut hLong, fun hShort => absurd hLong (Nat.not_lt.mpr hShort),
      fun _ => String.toList_ofList⟩
  · exact ⟨s, preview_of_fits (.text hShort), fun _ => rfl,
      fun hLong => absurd hLong (Nat.not_lt.mpr hShort)⟩

/-- An object that is cut, with a text inside that is cut too and one that just fits. -/
theorem preview_cut_at_limits_nested :
    let settings : SuggestionSettings := { sampleChars := 2, sampleKeys := 2 }
    let short := list [.text "né"]
    let fields : Fields := [("a", .text "déjà"), ("b", short), ("c", .null), ("d", .null)]
    settings.sampleKeys < fields.length ∧ cutMark ∉ (shownFields settings fields).names ∧
      fields.Ordered ∧ short.Fits settings ∧ short.preview settings = short ∧
      ∃ entries : Fields, (object fields).preview settings = .object entries ∧ entries.Ordered ∧
        entries.get? "..." = some (.text "2 more") ∧
        entries.Perm [("...", .text "2 more"), ("a", .text "dé..."), ("b", short)] := by
  intro settings short fields
  have hMore : settings.sampleKeys < fields.length := by decide
  have hNew : cutMark ∉ (shownFields settings fields).names := by decide
  have hOrdered : fields.Ordered := by
    unfold Table.Ordered
    decide +kernel
  have hFits : short.Fits settings := by
    refine .list fun v hv => ?_
    obtain rfl := List.mem_singleton.mp hv
    exact .text (by decide)
  obtain ⟨-, -, -, hObjects, hSame⟩ := preview_cut_at_limits settings
  obtain ⟨entries, hPreview, hSampled⟩ := hObjects fields
  have hCut : (text "déjà").preview settings = .text "dé..." :=
    congrArg text (by decide +kernel : cutText 2 "déjà" = "dé...")
  have hShown : shownFields settings fields = [("a", .text "dé..."), ("b", short)] := by
    change [("a", (text "déjà").preview settings), ("b", short.preview settings)] = _
    rw [hCut, hSame short hFits]
  have hCount : hiddenCount settings fields = .text "2 more" := congrArg text (by decide +kernel)
  have hMark := hSampled.cut hMore cutMark
  have hAdded := hSampled.added hMore hNew
  rw [if_pos rfl, hCount] at hMark
  rw [hShown, hCount] at hAdded
  exact ⟨hMore, hNew, hOrdered, hFits, hSame short hFits, entries, hPreview,
    hSampled.ordered hOrdered, hMark, hAdded⟩

end Value

end TextTemplate
