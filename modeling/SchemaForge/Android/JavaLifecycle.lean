import SchemaForge.Android.Lifecycle
import SchemaForge.Code.JavaClass

namespace SchemaForge

/-! # Java classes for all databases -/

namespace Lifecycle

/-- The methods that take a database. -/
def javaFunction (annotations : List String) (f : DatabaseFunction) : JavaMethod :=
  { name := f.name, result := "void", content := f.content, annotations
    parameters := [{ name := "androidDatabase", type := "AndroidDatabase" }] }

/-- The class that creates databases in Java. -/
def javaCreation (run : Run) (s : Schema) : JavaClass :=
  { name := "DatabaseBaseManager", package := run.package, isAbstract := true
    parent := "AndroidDatabaseManager", fileHeader := generatedHeader "DatabaseBaseManager.java"
    annotations := [Library.quiet]
    imports := Code.imports (creationImports ++ domain ["database.DatabaseWrapper"])
    constructors :=
      [{ name := "DatabaseBaseManager", isConstructor := true
         parameters := [{ name := "databaseConfig", type := "DatabaseConfig" }]
         content := "super(databaseConfig);" }]
    methods := (eventFunctions run .java s).map (javaFunction [JavaMethod.overrideMark])
      ++ (s.databases.flatMap (functionsOf run .java)).map (javaFunction []) }

/-- The names of the databases in Java. -/
def javaNames (run : Run) (s : Schema) : JavaClass :=
  { name := constantsName, package := run.package
    fileHeader := generatedHeader (constantsName ++ ".java"), annotations := [Library.quiet]
    constants := s.databases.map fun d =>
      .constant d.nameConstant "String" (Literal.quote .java d.name) }

/-- A method that upgrades a database in Java. -/
def javaUpgrade (name content : String) : JavaMethod :=
  { name, result := "void", content, annotations := [JavaMethod.overrideMark]
    parameters := [{ name := "androidDatabase", type := "AndroidDatabase" },
      { name := "oldVersion", type := "int" }, { name := "newVersion", type := "int" }] }

/-- The class that upgrades databases in Java, which is edited by hand. -/
def javaUpgrades (run : Run) (s : Schema) : JavaClass :=
  let injected := run.options.injection
  let report (part : String) :=
    "String databaseName = androidDatabase.getName();\n"
      ++ "getLogger().i(TAG, \"Upgrading database [\" + databaseName + \"]" ++ part
      ++ " from version \" + oldVersion + \" to \" + newVersion);"
  { name := "DatabaseManager", package := run.package, parent := "DatabaseBaseManager"
    fileHeader := editableHeader "DatabaseManager.java" run.created
    annotations := if injected then ["@Singleton"] else []
    imports := Code.imports (domain ["AndroidDatabase", "config.DatabaseConfig"]
      ++ injectionImports run)
    constructors :=
      [{ name := "DatabaseManager", isConstructor := true
         parameters := [{ name := "databaseConfig", type := "DatabaseConfig" }]
         content := "super(databaseConfig);"
         annotations := if injected then ["@Inject"] else [] }]
    constants := s.databases.flatMap fun d =>
      [.constant (d.tablesVersion .java) "int" "1", .constant (d.viewsVersion .java) "int" "1"]
    methods :=
      [javaUpgrade "onUpgrade" (report ""),
        javaUpgrade "onUpgradeViews" (report " VIEWS" ++ "\n// automatically drop/create views\n"
          ++ "super.onUpgradeViews(androidDatabase, oldVersion, newVersion);")] }

/-- The class that identifies the databases in Java, which is edited by hand. -/
def javaConfig (run : Run) (s : Schema) : JavaClass :=
  { name := "AppDatabaseConfig", package := run.package, interfaces := ["DatabaseConfig"]
    fileHeader := editableHeader "AppDatabaseConfig.java" run.created
    imports := Code.imports configImports
    fields := [{ name := "application", type := "Application" }]
    constructors :=
      [{ name := "AppDatabaseConfig", isConstructor := true
         parameters := [{ name := "application", type := "Application" }]
         content := "this.application = application;" }]
    methods :=
      [{ name := "identifyDatabases", result := "void", annotations := [JavaMethod.overrideMark]
         parameters := [{ name := "databaseManager", type := "AndroidDatabaseBaseManager" }]
         content := Text.concat (s.databases.map (identify .java)) },
        { name := "createNewDatabaseWrapper", result := "DatabaseWrapper"
          annotations := [JavaMethod.overrideMark]
          parameters := [{ name := "androidDatabase", type := "AndroidDatabase" }]
          content := "return new AndroidDatabaseWrapper(androidDatabase.getPath());" },
        { name := "createNewDBToolsContentValues", result := "DBToolsContentValues"
          annotations := [JavaMethod.overrideMark]
          content := "return new AndroidDBToolsContentValues();" },
        { name := "createNewDBToolsLogger", result := "DBToolsLogger"
          annotations := [JavaMethod.overrideMark], content := "return new DBToolsAndroidLogger();" }] }

/-- The class that holds the managers of a database in Java. -/
def javaHolder (run : Run) (d : Database) : JavaClass :=
  { name := holderName d, package := run.packageOf d
    fileHeader := generatedHeader (holderName d ++ ".java"), annotations := [Library.quiet]
    imports := holderImports run d
    fields := (heldManagers run d).map fun m =>
      { name := m.2, type := m.1.managerName, isStatic := true, hasGetter := true }
    methods :=
      [{ name := "init", result := "void", isStatic := true, content := holderInit run .java d
         parameters := [{ name := "databaseManager", type := "DatabaseManager" }] }] }

end Lifecycle

end SchemaForge
