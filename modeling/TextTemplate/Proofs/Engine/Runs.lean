import Mathlib.Data.List.Dedup
import TextTemplate.Engine.Basic

/-!
# Runs of an engine

A host registers variables and functions, has sources read and evaluated, asks for suggestions and
clears the cache, in any order. What it gets for a source does not depend on what the cache holds.

* `Operation`, `Engine.run`: what a host can ask for, and the engine after a sequence of that.
* `Cache.Keeps`: a cache that keeps what some sources are read as, each once.
* `keeps_run`: after a run the cache keeps the sources that were read since it was cleared last.
* `run_transparent`: what a host can rely on after every run.
-/

namespace TextTemplate

/-! ## Caches -/

/-- A lookup, a failed reading and a reading are all that can happen to a cache. -/
theorem Cache.parse_cases (c : Cache) (raw : String) :
    (∃ kept, c.get? raw = some kept ∧ c.parse raw = (.ok kept, c)) ∨
      (∃ e, c.get? raw = none ∧ Template.parse raw = .error e ∧ c.parse raw = (.error e, c)) ∨
      (∃ t, c.get? raw = none ∧ Template.parse raw = .ok t ∧
        c.parse raw = (.ok ⟨c.next, t⟩, ⟨c.entries.put raw ⟨c.next, t⟩, c.next + 1⟩)) := by
  unfold Cache.parse
  cases hGet : c.get? raw with
  | some kept => exact .inl ⟨kept, rfl, rfl⟩
  | none =>
    cases hParse : Template.parse raw with
    | error e => exact .inr (.inl ⟨e, rfl, rfl, rfl⟩)
    | ok t => exact .inr (.inr ⟨t, rfl, rfl, rfl⟩)

theorem Cache.not_mem_names {c : Cache} {raw : String} (h : c.get? raw = none) :
    raw ∉ c.entries.names := by
  intro hMem
  obtain ⟨kept, hKept⟩ := (Table.mem_names_iff c.entries raw).mp hMem
  rw [Cache.get?, hKept] at h
  cases h

/-- The cache keeps what the sources are read as, and tells them apart by their serial numbers. -/
structure Cache.Keeps (c : Cache) (sources : List String) : Prop where
  entry {raw : String} {kept : KeptTemplate} :
    c.get? raw = some kept → Template.parse raw = .ok kept.template
  mem_names (raw : String) : raw ∈ c.entries.names ↔ raw ∈ sources
  nodup : c.entries.names.Nodup
  serial_lt {raw : String} {kept : KeptTemplate} : c.get? raw = some kept → kept.serial < c.next
  serial_inj {raw other : String} {kept kept' : KeptTemplate} :
    c.get? raw = some kept → c.get? other = some kept' → kept.serial = kept'.serial → raw = other

namespace Cache.Keeps

variable {c : Cache} {sources : List String}

theorem empty (next : Nat) : Keeps ⟨[], next⟩ [] := by
  refine ⟨fun h => ?_, fun raw => Iff.rfl, List.nodup_nil, fun h => ?_, fun h => ?_⟩
  all_goals cases h

/-- Only the number of sources counts that differ. -/
theorem size_eq (h : c.Keeps sources) : c.size = sources.dedup.length := by
  have hPerm : c.entries.names.Perm sources.dedup := by
    refine (List.perm_ext_iff_of_nodup h.nodup sources.nodup_dedup).mpr fun raw => ?_
    rw [h.mem_names, List.mem_dedup]
  have hLength := hPerm.length_eq
  rwa [Table.names, List.length_map] at hLength

/-- A source that is read for the first time is kept under the next number. -/
theorem put (h : c.Keeps sources) {raw : String} {t : Template} (hNew : raw ∉ c.entries.names)
    (hParse : Template.parse raw = .ok t) :
    Keeps ⟨c.entries.put raw ⟨c.next, t⟩, c.next + 1⟩ (raw :: sources) := by
  have hPerm := Table.perm_names_put hNew (⟨c.next, t⟩ : KeptTemplate)
  have hGet (other : String) : Cache.get? ⟨c.entries.put raw ⟨c.next, t⟩, c.next + 1⟩ other
      = if other = raw then some ⟨c.next, t⟩ else c.get? other := Table.get?_put _ _ _ _
  refine ⟨fun {other kept} hKept => ?_, fun other => ?_, ?_, fun {other kept} hKept => ?_,
    fun {other other' kept kept'} hKept hKept' hSerial => ?_⟩
  · rw [hGet] at hKept
    split at hKept
    · rename_i hEq
      cases hKept
      rw [hEq]
      exact hParse
    · exact h.entry hKept
  · rw [hPerm.mem_iff, List.mem_cons, List.mem_cons, h.mem_names]
  · exact hPerm.nodup_iff.mpr (List.nodup_cons.mpr ⟨hNew, h.nodup⟩)
  · rw [hGet] at hKept
    split at hKept
    · cases hKept
      exact Nat.lt_succ_self c.next
    · exact Nat.lt_succ_of_lt (h.serial_lt hKept)
  · -- The new number is larger than those of all older templates.
    rw [hGet] at hKept hKept'
    split at hKept
    · rename_i hEq
      cases hKept
      split at hKept'
      · rename_i hEq'
        rw [hEq, hEq']
      · have hLess := h.serial_lt hKept'
        simp only at hSerial
        omega
    · split at hKept'
      · have hLess := h.serial_lt hKept
        cases hKept'
        simp only at hSerial
        omega
      · exact h.serial_inj hKept hKept' hSerial

theorem mono {sources' : List String} (h : c.Keeps sources)
    (hSame : ∀ raw, raw ∈ sources ↔ raw ∈ sources') : c.Keeps sources' :=
  ⟨h.entry, fun raw => (h.mem_names raw).trans (hSame raw), h.nodup, h.serial_lt, h.serial_inj⟩

/-- What the cache gives for a source is what the source is read as. -/
theorem parse_eq (h : c.Keeps sources) (raw : String) :
    (c.parse raw).1.map KeptTemplate.template = Template.parse raw := by
  rcases c.parse_cases raw with ⟨kept, hGet, hStep⟩ | ⟨e, -, hParse, hStep⟩ | ⟨t, -, hParse, hStep⟩
  · rw [hStep, h.entry hGet]
    rfl
  · rw [hStep, hParse]
    rfl
  · rw [hStep, hParse]
    rfl

/-- A source that can be read is kept from then on; one that cannot changes nothing. -/
theorem parse (h : c.Keeps sources) (raw : String) : (c.parse raw).2.Keeps
    (if (Template.parse raw).isOk then raw :: sources else sources) := by
  rcases c.parse_cases raw with
    ⟨kept, hGet, hStep⟩ | ⟨e, hGet, hParse, hStep⟩ | ⟨t, hGet, hParse, hStep⟩
  · have hMem : raw ∈ sources :=
      (h.mem_names raw).mp ((Table.mem_names_iff c.entries raw).mpr ⟨kept, hGet⟩)
    rw [hStep, h.entry hGet]
    refine h.mono fun other => ⟨List.mem_cons_of_mem raw, fun hOther => ?_⟩
    rcases List.mem_cons.mp hOther with rfl | hOther
    · exact hMem
    · exact hOther
  · rw [hStep, hParse]
    exact h
  · rw [hStep, hParse]
    exact h.put (Cache.not_mem_names hGet) hParse

end Cache.Keeps

theorem Cache.get?_parse_of_ok {c : Cache} {raw : String} {kept : KeptTemplate}
    (h : (c.parse raw).1 = .ok kept) : (c.parse raw).2.get? raw = some kept := by
  rcases c.parse_cases raw with ⟨kept', hGet, hStep⟩ | ⟨e, -, -, hStep⟩ | ⟨t, -, -, hStep⟩
  · rw [hStep] at h ⊢
    cases h
    exact hGet
  · rw [hStep] at h
    cases h
  · rw [hStep] at h ⊢
    cases h
    rw [Cache.get?, Table.get?_put, if_pos rfl]

theorem Cache.parse_of_get? {c : Cache} {raw : String} {kept : KeptTemplate}
    (h : c.get? raw = some kept) : c.parse raw = (.ok kept, c) := by
  unfold Cache.parse
  rw [h]

/-- What is kept stays so, whatever else is read. -/
theorem Cache.get?_parse {c : Cache} {raw : String} {kept : KeptTemplate} (other : String)
    (h : c.get? raw = some kept) : (c.parse other).2.get? raw = some kept := by
  rcases c.parse_cases other with ⟨kept', -, hStep⟩ | ⟨e, -, -, hStep⟩ | ⟨t, hNone, -, hStep⟩
  · rw [hStep]
    exact h
  · rw [hStep]
    exact h
  · have hOther : raw ≠ other := by
      rintro rfl
      rw [h] at hNone
      cases hNone
    rw [hStep, Cache.get?, Table.get?_put, if_neg hOther]
    exact h

/-! ## Operations -/

namespace Engine

/-- What a host can ask of an engine. -/
inductive Operation
  /-- Registers or replaces a variable. -/
  | setVariable (name : String) (v : Value)
  | removeVariable (name : String)
  /-- Registers or replaces a function. -/
  | setFunction (name : String) (entry : FunctionEntry)
  | parse (raw : String)
  | evaluate (raw : String) (context : Fields)
  | render (raw : String) (context : Fields)
  | clearCache
  | suggestions
  | complete (partialText : String)

namespace Operation

/-- The registry after an operation. -/
def onRegistry (r : Registry) : Operation → Registry
  | .setVariable name v => r.setVariable name v
  | .removeVariable name => r.removeVariable name
  | .setFunction name entry => r.setFunction name entry
  | _ => r

/-- The source that an operation has read. -/
def source? : Operation → Option String
  | .parse raw | .evaluate raw _ | .render raw _ => some raw
  | _ => none

def clears : Operation → Bool
  | .clearCache => true
  | _ => false

end Operation

/-- The engine after an operation. -/
def after (e : Engine) : Operation → Engine
  | .setVariable name v => { e with registry := e.registry.setVariable name v }
  | .removeVariable name => { e with registry := e.registry.removeVariable name }
  | .setFunction name entry => { e with registry := e.registry.setFunction name entry }
  | .parse raw => (e.parse raw).2
  | .evaluate raw context => (e.evaluate raw context).2
  | .render raw context => (e.render raw context).2
  | .clearCache => e.clearCache
  | .suggestions => e
  | .complete _ => e

/-- The engine after a sequence of operations. -/
def run (e : Engine) (ops : List Operation) : Engine := ops.foldl after e

/-- The sources that were read with success since the cache was cleared last, latest first. -/
def readSinceClear (ops : List Operation) : List String :=
  ((ops.reverse.takeWhile fun op => !op.clears).filterMap Operation.source?).filter fun raw =>
    (Template.parse raw).isOk

/-- The value of a source that is read afresh. -/
def evaluateAfresh (registry : Registry) (raw : String) (context : Fields) :
    Except EngineFault Value := do
  let t ← (Template.parse raw).mapError .reading
  (t.evaluate registry context).mapError .evaluation

theorem evaluate_snd (e : Engine) (raw : String) (context : Fields) :
    (e.evaluate raw context).2 = (e.parse raw).2 := by
  unfold evaluate
  rcases e.parse raw with ⟨_ | _, _⟩ <;> rfl

theorem render_snd (e : Engine) (raw : String) (context : Fields) :
    (e.render raw context).2 = (e.parse raw).2 := e.evaluate_snd raw context

theorem registry_after (e : Engine) (op : Operation) :
    (e.after op).registry = op.onRegistry e.registry := by
  cases op with
  | evaluate raw context =>
    rw [after, evaluate_snd]
    rfl
  | render raw context =>
    rw [after, render_snd]
    rfl
  | _ => rfl

theorem cache_after_of_source {e : Engine} {op : Operation} {raw : String}
    (h : op.source? = some raw) : (e.after op).cache = (e.cache.parse raw).2 := by
  cases op with
  | parse raw =>
    cases h
    rfl
  | evaluate raw context =>
    cases h
    rw [after, evaluate_snd]
    rfl
  | render raw context =>
    cases h
    rw [after, render_snd]
    rfl
  | _ => cases h

theorem cache_after_of_none {e : Engine} {op : Operation} (h : op.source? = none)
    (hClears : op.clears = false) : (e.after op).cache = e.cache := by
  cases op with
  | parse | evaluate | render => cases h
  | clearCache => cases hClears
  | _ => rfl

theorem readSinceClear_concat (ops : List Operation) (op : Operation) :
    readSinceClear (ops ++ [op]) = if op.clears then [] else
      match op.source? with
      | some raw => if (Template.parse raw).isOk then raw :: readSinceClear ops
        else readSinceClear ops
      | none => readSinceClear ops := by
  unfold readSinceClear
  rw [List.reverse_append, List.reverse_singleton, List.singleton_append, List.takeWhile_cons]
  cases hClears : op.clears with
  | true => rfl
  | false =>
    simp only [Bool.not_false, if_true, Bool.false_eq_true, if_false]
    cases hSource : op.source? with
    | none => rw [List.filterMap_cons_none hSource]
    | some raw => rw [List.filterMap_cons_some hSource, List.filter_cons]

/-- One operation keeps the cache in step with the history. -/
theorem keeps_after {e : Engine} {ops : List Operation} (op : Operation)
    (h : e.cache.Keeps (readSinceClear ops)) :
    (e.after op).cache.Keeps (readSinceClear (ops ++ [op])) := by
  rw [readSinceClear_concat]
  cases hClears : op.clears with
  | true =>
    have hOp : op = .clearCache := by cases op <;> first | rfl | cases hClears
    subst hOp
    exact .empty _
  | false =>
    rw [if_neg (by simp)]
    cases hSource : op.source? with
    | none =>
      rw [cache_after_of_none hSource hClears]
      exact h
    | some raw =>
      rw [cache_after_of_source hSource]
      exact h.parse raw

/-- After a run the cache keeps the sources that were read since it was cleared last. -/
theorem keeps_run {e : Engine} {done : List Operation} (ops : List Operation)
    (h : e.cache.Keeps (readSinceClear done)) :
    (e.run ops).cache.Keeps (readSinceClear (done ++ ops)) := by
  induction ops generalizing e done with
  | nil => rwa [List.append_nil]
  | cons op ops ih =>
    have hRest := ih (keeps_after op h)
    rwa [List.append_assoc, List.singleton_append] at hRest

theorem registry_run (e : Engine) (ops : List Operation) :
    (e.run ops).registry = ops.foldl Operation.onRegistry e.registry := by
  induction ops generalizing e with
  | nil => rfl
  | cons op ops ih =>
    rw [List.foldl_cons, ← registry_after]
    exact ih (e.after op)

/-- A kept template stays until the cache is cleared. -/
theorem get?_run {e : Engine} {raw : String} {kept : KeptTemplate} {ops : List Operation}
    (hClear : .clearCache ∉ ops) (h : e.cache.get? raw = some kept) :
    (e.run ops).cache.get? raw = some kept := by
  induction ops generalizing e with
  | nil => exact h
  | cons op ops ih =>
    have hRest : .clearCache ∉ ops := fun hMem => hClear (List.mem_cons_of_mem op hMem)
    have hClears : op.clears = false := by
      cases op with
      | clearCache => exact absurd List.mem_cons_self hClear
      | _ => rfl
    refine ih hRest ?_
    cases hSource : op.source? with
    | none =>
      rw [cache_after_of_none hSource hClears]
      exact h
    | some other =>
      rw [cache_after_of_source hSource]
      exact Cache.get?_parse other h

/-! ## What a host gets -/

section Answers

variable {e : Engine} {sources : List String}

theorem parse_fst (h : e.cache.Keeps sources) (raw : String) :
    (e.parse raw).1.map KeptTemplate.template = Template.parse raw := h.parse_eq raw

theorem evaluate_fst (h : e.cache.Keeps sources) (raw : String) (context : Fields) :
    (e.evaluate raw context).1 = evaluateAfresh e.registry raw context := by
  unfold evaluate evaluateAfresh
  rw [← parse_fst h raw]
  have hRegistry : (e.parse raw).2.registry = e.registry := rfl
  rw [← hRegistry]
  rcases e.parse raw with ⟨_ | kept, e'⟩ <;> rfl

theorem evaluate_reading_iff (h : e.cache.Keeps sources) (raw : String) (context : Fields)
    (f : SyntaxError) :
    (e.evaluate raw context).1 = .error (.reading f) ↔ Template.parse raw = .error f := by
  rw [evaluate_fst h]
  unfold evaluateAfresh
  cases Template.parse raw with
  | error f' =>
    change (Except.error (.reading f') : Except EngineFault Value) = .error (.reading f) ↔ _
    simp
  | ok t =>
    refine iff_of_false (fun hFault => ?_) (fun hError => ?_)
    · change (t.evaluate e.registry context).mapError EngineFault.evaluation = _ at hFault
      cases hValue : t.evaluate e.registry context with
      | error f' =>
        rw [hValue] at hFault
        cases hFault
      | ok v =>
        rw [hValue] at hFault
        cases hFault
    · cases hError

/-- A source that cannot be read leaves the engine as it is. -/
theorem parse_snd_of_error {raw : String} {f : SyntaxError}
    (hParse : Template.parse raw = .error f) : (e.parse raw).2 = e := by
  have hCache : (e.cache.parse raw).2 = e.cache := by
    rcases e.cache.parse_cases raw with ⟨kept, -, hStep⟩ | ⟨f', -, -, hStep⟩ | ⟨t, -, hOk, -⟩
    · rw [hStep]
    · rw [hStep]
    · rw [hParse] at hOk
      cases hOk
  have hStep : (e.parse raw).2 = { e with cache := (e.cache.parse raw).2 } := rfl
  rw [hStep, hCache]

theorem exists_kept_of_evaluation (h : e.cache.Keeps sources) {raw : String} {context : Fields}
    {f : EvalFault} (hFault : (e.evaluate raw context).1 = .error (.evaluation f)) :
    ∃ kept, (e.parse raw).1 = .ok kept := by
  cases hParse : (e.parse raw).1 with
  | ok kept => exact ⟨kept, rfl⟩
  | error f' =>
    have hAfresh := parse_fst h raw
    rw [hParse] at hAfresh
    have hReading := (evaluate_reading_iff h raw context f').mpr hAfresh.symm
    rw [hReading] at hFault
    cases hFault

theorem parse_again {raw : String} {kept : KeptTemplate} {more : List Operation}
    (hKept : (e.parse raw).1 = .ok kept) (hClear : .clearCache ∉ more) :
    (((e.parse raw).2.run more).parse raw).1 = .ok kept := by
  have hFirst : (e.parse raw).2.cache.get? raw = some kept := Cache.get?_parse_of_ok hKept
  have hThen := get?_run hClear hFirst
  exact congrArg Prod.fst (Cache.parse_of_get? hThen)

end Answers

/-- What a host can rely on in an engine that started with a registry, after some operations. -/
structure CacheTransparent (start : Registry) (history : List Operation) (e : Engine) : Prop where
  /-- Registrations count, and nothing else changes what is registered. -/
  registry : e.registry = history.foldl Operation.onRegistry start
  entry (raw : String) (kept : KeptTemplate) :
    e.cache.get? raw = some kept → Template.parse raw = .ok kept.template
  /-- Serial numbers tell the kept templates apart. -/
  distinct (raw other : String) (kept kept' : KeptTemplate) : e.cache.get? raw = some kept →
    e.cache.get? other = some kept' → kept.serial = kept'.serial → raw = other
  size : e.cache.size = (readSinceClear history).dedup.length
  parse (raw : String) : (e.parse raw).1.map KeptTemplate.template = Template.parse raw
  evaluate (raw : String) (context : Fields) :
    (e.evaluate raw context).1 = evaluateAfresh e.registry raw context
  render (raw : String) (context : Fields) :
    (e.render raw context).1 = (evaluateAfresh e.registry raw context).map Value.rendered
  reading (raw : String) (context : Fields) (f : SyntaxError) :
    (e.evaluate raw context).1 = .error (.reading f) ↔ Template.parse raw = .error f
  /-- What cannot be read leaves the engine as it is. -/
  unread (raw : String) (f : SyntaxError) : Template.parse raw = .error f →
    (e.parse raw).2 = e ∧ ∀ context, (e.evaluate raw context).2 = e ∧ (e.render raw context).2 = e
  /-- What fails later leaves what reading alone leaves. -/
  failed (raw : String) (context : Fields) (f : EvalFault) :
    (e.evaluate raw context).1 = .error (.evaluation f) →
      (e.evaluate raw context).2.registry = e.registry ∧
        (e.render raw context).2.registry = e.registry ∧
        ∃ kept, e.parse raw = (.ok kept, (e.evaluate raw context).2) ∧
          e.parse raw = (.ok kept, (e.render raw context).2)
  /-- Until the cache is cleared, the same template is given again. -/
  again (raw : String) (kept : KeptTemplate) (more : List Operation) :
    (e.parse raw).1 = .ok kept → .clearCache ∉ more →
      (((e.parse raw).2.run more).parse raw).1 = .ok kept

/-- After every sequence of operations, in an engine of any settings, the cache cannot be told from
reading every source afresh. -/
theorem run_transparent (clock : Calendar.DateTime) (settings : EngineSettings)
    (ops : List Operation) : CacheTransparent (ofSettings clock settings).registry ops
      ((ofSettings clock settings).run ops) := by
  have hStart : (ofSettings clock settings).cache.Keeps (readSinceClear []) := .empty 0
  have hKeeps := keeps_run ops hStart
  rw [List.nil_append] at hKeeps
  generalize hEngine : (ofSettings clock settings).run ops = e at hKeeps
  refine
    { registry := hEngine ▸ registry_run _ ops
      entry := fun raw kept => hKeeps.entry
      distinct := fun raw other kept kept' => hKeeps.serial_inj
      size := hKeeps.size_eq
      parse := parse_fst hKeeps
      evaluate := evaluate_fst hKeeps
      render := fun raw context => congrArg (Except.map Value.rendered)
        (evaluate_fst hKeeps raw context)
      reading := evaluate_reading_iff hKeeps
      unread := fun raw f hParse => ?_
      failed := fun raw context f hFault => ?_
      again := fun raw kept more => parse_again }
  · have hSame : (e.parse raw).2 = e := parse_snd_of_error hParse
    refine ⟨hSame, fun context => ?_⟩
    rw [evaluate_snd, render_snd]
    exact ⟨hSame, hSame⟩
  · obtain ⟨kept, hKept⟩ := exists_kept_of_evaluation hKeeps hFault
    rw [evaluate_snd, render_snd]
    exact ⟨rfl, rfl, kept, Prod.ext hKept rfl, Prod.ext hKept rfl⟩

end Engine

end TextTemplate
