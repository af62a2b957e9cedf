import GuestLaunch.Validation

/-!
What a configuration without problems guarantees: every device passes its own check, and no
two devices of one category have the same identifier.
-/

namespace GuestLaunch

theorem checkPresent_eq_none_iff {subject field value : String}
    : checkPresent subject field value = none ↔ value ≠ "" := by
  simp [checkPresent]

theorem checkOneOf_eq_none_iff {subject field value expected : String} {allowed : List String}
    : checkOneOf subject field value allowed expected = none ↔ value = "" ∨ value ∈ allowed := by
  simp [checkOneOf, Decidable.or_iff_not_imp_left]

/-- The devices of a category have no problems exactly if each passes its own check and the
identifiers are distinct from each other and from those that came before, by induction on the
devices.
-/
theorem categoryProblems_eq_nil_iff (seen : List String) (devices : List Device)
    : categoryProblems seen devices = []
      ↔ (∀ device ∈ devices, device.problem? = none)
        ∧ (devices.filterMap Device.id?).Nodup
        ∧ ∀ id ∈ devices.filterMap Device.id?, id ∉ seen := by
  induction devices generalizing seen with
  | nil => simp [categoryProblems]
  | cons device rest ih =>
      cases named : device.id? with
      | none =>
          simp only [categoryProblems, named, List.append_nil, Option.toList_none,
            List.nil_append, List.append_eq_nil_iff, Option.toList_eq_nil_iff, ih,
            List.forall_mem_cons, List.filterMap_cons_none named, and_assoc]
      | some id =>
          have unseen : (if seen.contains id then [Problem.duplicateId device.label id] else [])
              = [] ↔ id ∉ seen := by
            simp
          simp only [categoryProblems, named, Option.toList_some, List.cons_append,
            List.nil_append, List.append_eq_nil_iff, Option.toList_eq_nil_iff, unseen, ih,
            List.forall_mem_cons, List.filterMap_cons_some named, List.nodup_cons]
          constructor
          · rintro ⟨⟨own, fresh⟩, checked, distinct, apart⟩
            refine ⟨⟨own, checked⟩, ⟨?_, distinct⟩, fresh, ?_⟩
            · intro again
              exact apart id again List.mem_cons_self
            · intro other member before
              exact apart other member (List.mem_cons_of_mem _ before)
          · rintro ⟨⟨own, checked⟩, ⟨alone, distinct⟩, fresh, apart⟩
            refine ⟨⟨own, fresh⟩, checked, distinct, ?_⟩
            intro other member before
            rcases List.mem_cons.mp before with rfl | earlier
            · exact alone member
            · exact apart other member earlier

namespace Config
variable {config : Config}

/-- In a configuration without problems no category has any. -/
theorem categoryProblems_of_valid (valid : config.problems = []) (category : Category)
    : categoryProblems [] (category.devices config) = [] := by
  have every : Category.all.flatMap
      (fun category => categoryProblems [] (category.devices config)) = [] := by
    simp only [problems, List.append_eq_nil_iff] at valid
    exact valid.1.2
  have listed : category ∈ Category.all := by
    cases category <;> decide
  exact List.flatMap_eq_nil_iff.mp every category listed

/-- In a configuration without problems every device passes its own check. -/
theorem problem?_of_valid (valid : config.problems = []) {device : Device}
    (member : device ∈ config.devices)
    : device.problem? = none := by
  obtain ⟨category, _, listed⟩ := List.mem_flatMap.mp member
  exact ((categoryProblems_eq_nil_iff _ _).mp
    (categoryProblems_of_valid valid category)).1 device listed

/-- In a configuration without problems the identifiers of each category are distinct. -/
theorem ids_nodup_of_valid (valid : config.problems = []) (category : Category)
    : ((category.devices config).filterMap Device.id?).Nodup :=
  ((categoryProblems_eq_nil_iff _ _).mp (categoryProblems_of_valid valid category)).2.1

end Config

end GuestLaunch
