namespace SchemaForge

/-! # The library of generated sources

The full names of the classes and annotations that generated sources refer to.
-/

namespace Library

/-- The cursor over the rows of a result. -/
def cursor : String := "android.database.Cursor"

/-- The class that every record extends. -/
def baseRecord : String := "org.dbtools.android.domain.AndroidBaseRecord"

/-- The values of a row by the names of their columns. -/
def contentValues : String :=
  "org.dbtools.android.domain.database.contentvalues.DBToolsContentValues"

/-- A prepared statement. -/
def statement : String := "org.dbtools.android.domain.database.statement.StatementWrapper"

/-- The builder of queries. -/
def queryBuilder : String := "org.dbtools.query.sql.SQLQueryBuilder"

/-- The package of the classes that records and managers build on. -/
def domain : String := "org.dbtools.android.domain"

/-- The annotation that silences the warnings about generated code. -/
def quiet : String := "@SuppressWarnings(\"all\")"

end Library

end SchemaForge
