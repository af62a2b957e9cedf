import GuestLaunch.Proofs.Options.DoubledCommas

/-!
The properties of the drive of a disk, as they are read from its value. The texts of a disk stand in
the value as they are configured, so a comma in one of them is read as the end of a property.
-/

namespace GuestLaunch

theorem commaFree_pair_iff {key : String} (plain : CommaFree key) (value : String)
    : CommaFree (Param.pair key value).text ↔ CommaFree value := by
  constructor
  · intro whole member
    refine whole ?_
    rw [Param.text, String.toList_append]
    exact List.mem_append_right _ member
  · exact plain.pair

namespace Disk

/-- What the drive of a disk may say, in its order, with the values that are set: four properties
that are always set, and six that need not be.
-/
def driveSettings (disk : Disk) : List (String × Option String) :=
  [("file", some disk.file),
    ("id", some disk.id),
    ("if", some disk.interface),
    ("format", some disk.format),
    ("aio", disk.asyncIo.map AsyncIo.name),
    ("cache", disk.cache.map CacheMode.name),
    ("discard", disk.discard.map DiscardMode.name),
    ("detect-zeroes", disk.detectZeroes.map ZeroDetection.name),
    ("media", if disk.media = "" then none else some disk.media),
    ("readonly", if disk.readOnly then some "on" else none)]

/-- The properties that the drive of a disk is to have: those that are set. -/
def driveProperties (disk : Disk) : List Param :=
  disk.driveSettings.flatMap fun (key, value) => (value.map (Param.pair key)).toList

/-- The texts of a disk that stand in the value of its drive. -/
def driveTexts (disk : Disk) : List String :=
  [disk.file, disk.id, disk.interface, disk.format, disk.media]

/-- What is read from a value is what the drive of a disk is to have. -/
def ReadsAsDrive (disk : Disk) (value : String) : Prop := readParams value = disk.driveProperties

/-- What the value of a drive tells of its disk. -/
structure DriveWritten (disk : Disk) (value : String) : Prop where
  /-- The intended properties are joined by commas, with the texts of the disk as they are. -/
  joined : value = ",".intercalate (disk.driveProperties.map Param.text)
  /-- They are read from the value, and nothing else is, exactly if no text holds a comma. -/
  readBack : disk.ReadsAsDrive value ↔ ∀ text ∈ disk.driveTexts, CommaFree text

-----------------------------------------------------------------------------------------
-- The intended properties
-----------------------------------------------------------------------------------------

theorem driveParams_eq (disk : Disk) : disk.driveParams = disk.driveProperties := by
  have media : Param.unlessEmpty "media" disk.media
      = ((if disk.media = "" then none else some disk.media).map (Param.pair "media")).toList := by
    by_cases empty : disk.media = "" <;> simp [Param.unlessEmpty, empty]
  have readOnly : Param.onWhen "readonly" disk.readOnly
      = ((if disk.readOnly then some "on" else none).map (Param.pair "readonly")).toList := by
    cases disk.readOnly <;> rfl
  simp [driveParams, driveProperties, driveSettings, choiceParams, media, readOnly,
    Option.map_map, Function.comp_def]

theorem mem_driveProperties {disk : Disk} {param : Param}
    : param ∈ disk.driveProperties
      ↔ ∃ key value, (key, some value) ∈ disk.driveSettings ∧ param = .pair key value := by
  simp only [driveProperties, List.mem_flatMap, Prod.exists, Option.mem_toList,
    Option.map_eq_some_iff]
  constructor
  · rintro ⟨key, _, member, value, rfl, rfl⟩
    exact ⟨key, value, member, rfl⟩
  · rintro ⟨key, value, member, rfl⟩
    exact ⟨key, some value, member, value, rfl, rfl⟩

/-- The keys of a drive hold neither commas nor equals signs. -/
theorem plain_of_mem_driveSettings {disk : Disk} {key : String} {value : Option String}
    (member : (key, value) ∈ disk.driveSettings)
    : CommaFree key ∧ '=' ∉ key.toList := by
  have every : ∀ key ∈ ["file", "id", "if", "format", "aio", "cache", "discard", "detect-zeroes",
      "media", "readonly"], CommaFree key ∧ '=' ∉ key.toList := by
    decide
  exact every key (List.mem_map_of_mem (f := Prod.fst) member)

theorem hasKey_of_mem_driveProperties {disk : Disk} {param : Param}
    (member : param ∈ disk.driveProperties)
    : param.HasKey := by
  obtain ⟨key, value, set, rfl⟩ := mem_driveProperties.mp member
  exact (plain_of_mem_driveSettings set).2

/-- A choice that is set is named without commas if all choices are. -/
theorem commaFree_of_mem_choice {α : Type} (name : α → String)
    (every : ∀ choice, CommaFree (name choice)) (choice : Option α)
    : ∀ value ∈ choice.map name, CommaFree value := by
  intro value member
  obtain ⟨own, _, rfl⟩ := Option.map_eq_some_iff.mp (Option.mem_def.mp member)
  exact every own

/-- Only the texts of a disk can bring commas into the settings of its drive, and an empty medium,
which is not set, has none.
-/
theorem commaFree_driveSettings_iff (disk : Disk)
    : (∀ setting ∈ disk.driveSettings, ∀ value ∈ setting.2, CommaFree value)
      ↔ ∀ text ∈ disk.driveTexts, CommaFree text := by
  have asyncIo := commaFree_of_mem_choice AsyncIo.name (by rintro ⟨⟩ <;> decide)
  have cache := commaFree_of_mem_choice CacheMode.name (by rintro ⟨⟩ <;> decide)
  have discard := commaFree_of_mem_choice DiscardMode.name (by rintro ⟨⟩ <;> decide)
  have zeroes := commaFree_of_mem_choice ZeroDetection.name (by rintro ⟨⟩ <;> decide)
  have media
      : (∀ value ∈ if disk.media = "" then none else some disk.media, CommaFree value)
        ↔ CommaFree disk.media := by
    split
    next empty =>
      rw [empty]
      exact ⟨fun _ => by decide, fun _ _ member => nomatch member⟩
    next set => simp
  have readOnly : ∀ value ∈ if disk.readOnly then some "on" else none, CommaFree value := by
    split
    · simp
      decide
    · simp
  simp only [driveSettings, driveTexts, List.forall_mem_cons, Option.mem_some, forall_eq', media]
  constructor
  · rintro ⟨file, id, interface, format, -, -, -, -, medium, -⟩
    exact ⟨file, id, interface, format, medium, List.forall_mem_nil _⟩
  · rintro ⟨file, id, interface, format, medium, -⟩
    exact ⟨file, id, interface, format, asyncIo _, cache _, discard _, zeroes _, medium, readOnly,
      List.forall_mem_nil _⟩

/-- The properties hold commas where the texts of the disk do. -/
theorem commaFree_driveProperties_iff (disk : Disk)
    : (∀ param ∈ disk.driveProperties, CommaFree param.text)
      ↔ ∀ text ∈ disk.driveTexts, CommaFree text := by
  rw [← commaFree_driveSettings_iff]
  constructor
  · rintro plain ⟨key, _⟩ member value rfl
    have whole := plain _ (mem_driveProperties.mpr ⟨key, value, member, rfl⟩)
    exact (commaFree_pair_iff (plain_of_mem_driveSettings member).1 value).mp whole
  · intro plain param member
    obtain ⟨key, value, set, rfl⟩ := mem_driveProperties.mp member
    exact (plain_of_mem_driveSettings set).1.pair (plain _ set value rfl)

-----------------------------------------------------------------------------------------
-- The value of a drive
-----------------------------------------------------------------------------------------

theorem driveWritten_joinParams (disk : Disk)
    : disk.DriveWritten (LaunchOption.joinParams disk.driveParams) := by
  have present : disk.driveProperties ≠ [] := List.cons_ne_nil _ _
  constructor
  case joined => rw [LaunchOption.joinParams, driveParams_eq]
  case readBack =>
    rw [ReadsAsDrive, driveParams_eq,
      readParams_joinParams_iff present fun _ => hasKey_of_mem_driveProperties,
      commaFree_driveProperties_iff]

/-- A disk that is rendered has one drive, which is read back where no text holds a comma. -/
theorem driveWritten_of_render {disk : Disk} {placement : Placement} {state final : RunState}
    {options : List LaunchOption}
    (rendered : (disk.render placement).run state = (.ok options, final))
    : ∃ value others,
        argumentsOf options = "-drive" :: value :: argumentsOf others
        ∧ UsesOnly [.device] others
        ∧ disk.DriveWritten value := by
  have device : ((Device.disk disk).render placement .x86_64).run state = (.ok options, final) :=
    rendered
  obtain ⟨grants, _, own⟩ := Device.exists_optionsFor_of_render device
  obtain rfl : options = disk.optionsFor placement grants := own
  refine ⟨_, _, rfl, ?_, disk.driveWritten_joinParams⟩
  split
  · exact usesOnly_nil
  · exact usesOnly_setting (by decide)

/-- A disk with every property set. -/
def fullDisk : Disk where
  driver := "ide-cd"
  id := "d0"
  file := "/images/a=b.iso"
  interface := "none"
  asyncIo := some .ioUring
  format := "raw"
  media := "cdrom"
  cache := some .bypass
  readOnly := true
  discard := some .unmap
  detectZeroes := some .on

/-- The ten properties of a drive are read back, with an equals sign in the path. -/
theorem driveWritten_fullDisk
    : let rendered := (fullDisk.render { transport := .pci }).run (.initial .strict)
      fullDisk.problem? = none
        ∧ rendered.1.toOption.isSome
        ∧ fullDisk.driveProperties.length = 10
        ∧ ∃ value, fullDisk.DriveWritten value ∧ fullDisk.ReadsAsDrive value := by
  intro rendered
  have success : rendered.1.toOption = some (fullDisk.optionsFor { transport := .pci } []) := by
    decide +kernel
  obtain ⟨value, _, _, _, written⟩ := driveWritten_of_render (Render.run_of_toOption success)
  exact ⟨by decide +kernel, by rw [success]; rfl, by decide +kernel, value, written,
    written.readBack.mpr (by decide +kernel)⟩

/-- A disk whose image has a comma in its name. -/
def commaDisk : Disk where
  driver := "ide-hd"
  id := "d0"
  file := "a,b.img"
  interface := "none"
  format := "raw"
  driveOnly := true

/-- A comma in a path ends the property: the drive of a valid disk has another image, and a
parameter that nobody configured.
-/
theorem not_readsAsDrive_commaDisk
    : let rendered := (commaDisk.render { transport := .pci }).run (.initial .strict)
      commaDisk.problem? = none
        ∧ rendered.1.toOption.map argumentsOf
          = some ["-drive", "file=a,b.img,id=d0,if=none,format=raw"]
        ∧ readParams "file=a,b.img,id=d0,if=none,format=raw"
          = [.pair "file" "a", .bare "b.img", .pair "id" "d0", .pair "if" "none",
            .pair "format" "raw"]
        ∧ ¬commaDisk.ReadsAsDrive "file=a,b.img,id=d0,if=none,format=raw" := by
  intro rendered
  have read : readParams "file=a,b.img,id=d0,if=none,format=raw"
      = [.pair "file" "a", .bare "b.img", .pair "id" "d0", .pair "if" "none",
        .pair "format" "raw"] := by
    decide +kernel
  refine ⟨by decide +kernel, by decide +kernel, read, ?_⟩
  rw [ReadsAsDrive, read]
  decide +kernel

end Disk

end GuestLaunch
