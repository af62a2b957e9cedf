import GuestLaunch.Category
import Mathlib.Data.List.Flatten
import Mathlib.Data.List.Basic

/-!
The devices of a configuration with their categories, in the order in which they are rendered.
-/

namespace GuestLaunch

/-- The devices of a configuration with their categories. -/
def Config.members (config : Config) : List (Category × Device) :=
  Category.all.flatMap fun category =>
    (category.devices config).map fun device => (category, device)

theorem Category.mem_all (category : Category) : category ∈ Category.all := by
  cases category <;> decide

theorem Config.mem_members {config : Config} {category : Category} {device : Device}
    : (category, device) ∈ config.members ↔ device ∈ category.devices config := by
  simp [members, Category.mem_all]

theorem Config.members_snd (config : Config)
    : config.members.map Prod.snd = config.devices := by
  simp [members, devices, List.map_flatMap, Function.comp_def]

/-- The position of a category in the order of rendering. -/
def Category.rank (category : Category) : Nat := Category.all.idxOf category

theorem Category.rank_injective {first second : Category} (same : first.rank = second.rank)
    : first = second :=
  (List.idxOf_inj (Category.mem_all first)).mp same

/-- The devices stand in the order of their categories. -/
theorem Config.members_pairwise (config : Config)
    : config.members.Pairwise fun first second => first.1.rank ≤ second.1.rank := by
  have categories : Category.all.Pairwise fun first second => first.rank ≤ second.rank := by
    decide
  rw [members, List.pairwise_flatMap]
  constructor
  · intro category _
    rw [List.pairwise_map]
    exact List.pairwise_of_forall fun _ _ => Nat.le_refl _
  · refine categories.imp fun below first own second other => ?_
    obtain ⟨_, _, rfl⟩ := List.mem_map.mp own
    obtain ⟨_, _, rfl⟩ := List.mem_map.mp other
    exact below

end GuestLaunch
