import TextTemplate.Engine.Basic

/-!
# Registries with the library

* `Registry.Offers`: the functions are found under their names.
* `offers_registry`, `offers_ofSettings`: the registry of the library offers all of its functions,
  and so does an engine that starts with the library, whatever its variables. So what is proved of
  registries that offer functions of the library holds of these engines.
-/

namespace TextTemplate

namespace Registry

/-- The functions are found under their names. -/
def Offers (registry : Registry) (functions : List Library.Builtin) : Prop :=
  ∀ b ∈ functions, registry.function? b.name = some b.call

theorem Offers.mono {registry : Registry} {functions more : List Library.Builtin}
    (h : registry.Offers more) (hSubset : functions ⊆ more) : registry.Offers functions :=
  fun b hb => h b (hSubset hb)

theorem function?_setFunction (r : Registry) (name other : String) (entry : FunctionEntry) :
    (r.setFunction name entry).function? other
      = if other = name then some entry.call else r.function? other := by
  unfold function? setFunction
  rw [Table.get?_put]
  split <;> rfl

theorem function?_setVariables (r : Registry) (fields : List (String × Value)) (name : String) :
    (r.setVariables fields).function? name = r.function? name := by
  induction fields generalizing r with
  | nil => rfl
  | cons field fields ih => exact ih (r.setVariable field.1 field.2)

end Registry

namespace Library

/-- What is registered under other names does not change what is found. -/
theorem function?_register_of_not_mem {name : String} {functions : List Builtin}
    (h : name ∉ functions.map Builtin.name) (r : Registry) :
    (register r functions).function? name = r.function? name := by
  induction functions generalizing r with
  | nil => rfl
  | cons b functions ih =>
    rw [List.map_cons, List.mem_cons, not_or] at h
    have hRest := ih h.2 (r.setFunction b.name ⟨b.call, b.signature, b.description⟩)
    rw [Registry.function?_setFunction, if_neg h.1] at hRest
    exact hRest

/-- Functions of different names do not replace one another. -/
theorem offers_register {functions : List Builtin} (h : (functions.map Builtin.name).Nodup)
    (r : Registry) : (register r functions).Offers functions := by
  induction functions generalizing r with
  | nil => exact fun b hb => absurd hb List.not_mem_nil
  | cons first functions ih =>
    rw [List.map_cons, List.nodup_cons] at h
    intro b hb
    rcases List.mem_cons.mp hb with rfl | hb
    · have hFound := function?_register_of_not_mem h.1
        (r.setFunction b.name ⟨b.call, b.signature, b.description⟩)
      rw [Registry.function?_setFunction, if_pos rfl] at hFound
      exact hFound
    · exact ih h.2 _ b hb

/-- The names of the library do not depend on the time. -/
theorem names_builtins (clock clock' : Calendar.DateTime) :
    (builtins clock).map Builtin.name = (builtins clock').map Builtin.name := by
  have hDates : (dates clock).map Builtin.name = (dates clock').map Builtin.name := rfl
  simp only [builtins, catalogue, List.flatMap_cons, List.map_append, hDates]

theorem nodup_names_builtins (clock : Calendar.DateTime) :
    ((builtins clock).map Builtin.name).Nodup := by
  rw [names_builtins clock ⟨⟨0⟩, .midnight⟩]
  decide +kernel

theorem offers_registry (clock : Calendar.DateTime) :
    (registry clock).Offers (builtins clock) :=
  offers_register (nodup_names_builtins clock) Registry.empty

end Library

/-- An engine that starts with the library offers it, whatever variables it starts with. -/
theorem Engine.offers_ofSettings (clock : Calendar.DateTime) {settings : EngineSettings}
    (h : settings.library = true) :
    (ofSettings clock settings).registry.Offers (Library.builtins clock) := by
  intro b hb
  have hRegistry : (ofSettings clock settings).registry
      = (Library.registry clock).setVariables settings.bindings := by
    rw [ofSettings, h]
    rfl
  rw [hRegistry, Registry.function?_setVariables]
  exact Library.offers_registry clock b hb

end TextTemplate
