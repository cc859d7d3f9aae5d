import SchemaForge.Android.Generator
import SchemaForge.Proofs.Android.Resolution
import SchemaForge.Proofs.Code.Assembly

namespace SchemaForge

/-! # Soundness of the generated classes

Every class that is made of a resolved entity, and every class for all databases, is sound: its
annotations, interfaces, enums and constructors would pass the checks that are made when they are
added. The enum of an enumeration table needs a literal for that.
-/

/-! ## Annotations -/

namespace Code

@[simp] theorem annotation_quiet : annotation Library.quiet = .ok Library.quiet := by decide

@[simp] theorem annotation_unused :
    annotation "@Suppress(\"unused\")" = .ok "@Suppress(\"unused\")" := by decide

@[simp] theorem annotation_nonnull : annotation "@Nonnull" = .ok "@Nonnull" := by decide

@[simp] theorem annotation_singleton : annotation "@Singleton" = .ok "@Singleton" := by decide

@[simp] theorem annotation_inject : annotation "@Inject" = .ok "@Inject" := by decide

@[simp] theorem annotation_fullSingleton :
    annotation "@javax.inject.Singleton" = .ok "@javax.inject.Singleton" := by decide

@[simp] theorem annotation_fullInject :
    annotation "@javax.inject.Inject" = .ok "@javax.inject.Inject" := by decide

@[simp] theorem annotation_overrideMark :
    annotation JavaMethod.overrideMark = .ok JavaMethod.overrideMark := by decide

@[simp] theorem interface_databaseConfig : interface "DatabaseConfig" = .ok "DatabaseConfig" := by
  decide

end Code

/-! ## Classes of an entity -/

namespace Resolved

variable {r : Resolved}

theorem kotlinConstants_sound : r.kotlinConstants.Sound := by
  constructor <;> simp [kotlinConstants, kotlinReader, KotlinFunction.sound_iff]

theorem javaConstants_sound : r.javaConstants.Sound := by
  constructor <;> simp [javaConstants, javaReader, JavaMethod.sound_iff]

theorem kotlinEnumeration_sound (h : r.entity.enumItems ≠ []) : r.kotlinEnumeration.Sound := by
  constructor <;> simp [kotlinEnumeration, literals, h]

theorem javaEnumeration_sound (h : r.entity.enumItems ≠ []) : r.javaEnumeration.Sound := by
  constructor <;> simp [javaEnumeration, literals, h, JavaMethod.sound_iff]

theorem kotlinBaseRecord_sound (h : ∀ e ∈ r.nestedEnums, e.2 ≠ []) :
    r.kotlinBaseRecord.Sound := by
  constructor
  case enums =>
    simp only [kotlinBaseRecord, List.forall_mem_map]
    exact h
  all_goals simp [kotlinBaseRecord, kotlinRecordFunctions, KotlinFunction.sound_iff]

theorem javaBaseRecord_sound (h : ∀ e ∈ r.nestedEnums, e.2 ≠ []) :
    r.javaBaseRecord.Sound := by
  constructor
  case enums =>
    simp only [javaBaseRecord, List.forall_mem_map]
    exact h
  all_goals simp [javaBaseRecord, javaRecordMethods, overriding, JavaMethod.sound_iff]

theorem kotlinRecord_sound : r.kotlinRecord.Sound := by
  constructor <;> simp [kotlinRecord, KotlinClass.isInterface, KotlinFunction.sound_iff]

theorem javaRecord_sound : r.javaRecord.Sound := by
  constructor <;> simp [javaRecord, JavaClass.isInterface, JavaMethod.sound_iff]

theorem kotlinBaseManager_sound : r.kotlinBaseManager.Sound := by
  cases hquery : r.isQuery <;> constructor <;>
    simp [kotlinBaseManager, kotlinManagerFunctions, hquery, kotlinTextGetter,
      KotlinFunction.sound_iff]

theorem javaBaseManager_sound : r.javaBaseManager.Sound := by
  cases hquery : r.isQuery <;> constructor <;>
    simp [javaBaseManager, javaManagerMethods, javaDatabaseGetters, javaQueryMethods,
      javaNamedGetter, javaGetter, JavaMethod.addParameter, hquery, JavaClass.isInterface,
      JavaMethod.sound_iff]

theorem kotlinManager_sound : r.kotlinManager.Sound := by
  cases hquery : r.isQuery <;> constructor <;>
    simp [kotlinManager, hquery, KotlinClass.isInterface, KotlinFunction.sound_iff]

theorem javaManager_sound : r.javaManager.Sound := by
  cases hquery : r.isQuery <;> constructor <;>
    simp [javaManager, hquery, JavaClass.isInterface, JavaMethod.sound_iff]

end Resolved

/-! ## Classes for all databases -/

namespace Lifecycle

variable {run : Run} {s : Schema} {d : Database}

theorem kotlinCreation_sound : (kotlinCreation run s).Sound := by
  have hfunction : ∀ overrides f, (kotlinFunction overrides f).Sound := by
    simp [kotlinFunction, KotlinFunction.sound_iff]
  constructor
  case functions =>
    simp only [kotlinCreation, List.forall_mem_append, List.forall_mem_map]
    exact ⟨fun f _ => hfunction true f, fun f _ => hfunction false f⟩
  all_goals simp [kotlinCreation, KotlinClass.isInterface, KotlinFunction.sound_iff]

theorem javaCreation_sound : (javaCreation run s).Sound := by
  have hfunction : ∀ annotations f, Code.SoundAnnotations annotations →
      (javaFunction annotations f).Sound := by
    intro annotations f hsound
    simpa [javaFunction, JavaMethod.sound_iff] using hsound
  constructor
  case methods =>
    simp only [javaCreation, List.forall_mem_append, List.forall_mem_map]
    exact ⟨fun f _ => hfunction _ f (by simp), fun f _ => hfunction [] f (by simp)⟩
  all_goals simp [javaCreation, JavaClass.isInterface, JavaMethod.sound_iff]

theorem kotlinNames_sound : (kotlinNames run s).Sound := by
  constructor <;> simp [kotlinNames]

theorem javaNames_sound : (javaNames run s).Sound := by
  constructor <;> simp [javaNames]

theorem kotlinUpgrades_sound : (kotlinUpgrades run s).Sound := by
  have hupgrade : ∀ name content, (kotlinUpgrade name content).Sound := by
    simp [kotlinUpgrade, KotlinFunction.sound_iff]
  constructor
  -- the texts are literals put together from literals, which nothing here has to evaluate
  case functions =>
    rw [kotlinUpgrades, List.forall_mem_cons, List.forall_mem_singleton]
    exact ⟨hupgrade _ _, hupgrade _ _⟩
  all_goals simp [kotlinUpgrades, KotlinClass.isInterface, KotlinFunction.sound_iff,
    -String.reduceAppend]

theorem javaUpgrades_sound : (javaUpgrades run s).Sound := by
  have hupgrade : ∀ name content, (javaUpgrade name content).Sound := by
    simp [javaUpgrade, JavaMethod.sound_iff]
  constructor
  case methods =>
    rw [javaUpgrades, List.forall_mem_cons, List.forall_mem_singleton]
    exact ⟨hupgrade _ _, hupgrade _ _⟩
  all_goals simp [javaUpgrades, JavaClass.isInterface, JavaMethod.sound_iff,
    -String.reduceAppend]

theorem kotlinConfig_sound : (kotlinConfig run s).Sound := by
  constructor <;> simp [kotlinConfig, KotlinFunction.sound_iff]

theorem javaConfig_sound : (javaConfig run s).Sound := by
  constructor <;> simp [javaConfig, JavaClass.isInterface, JavaMethod.sound_iff]

theorem kotlinHolder_sound : (kotlinHolder run d).Sound := by
  constructor <;> simp [kotlinHolder, KotlinFunction.sound_iff]

theorem javaHolder_sound : (javaHolder run d).Sound := by
  constructor <;> simp [javaHolder, JavaMethod.sound_iff]

end Lifecycle

end SchemaForge
