import BoundReport.Json
import BoundReport.Template.Attributes
import BoundReport.Text.Quoted

/-!
# Datasources

A datasource names a database and the account that reads it.
-/

namespace BoundReport

/-- A **datasource**: a database server, a database on it, and an account. -/
structure DataSource where
  name : Text
  server : Text
  database : Text
  user : Text
  password : Text
  deriving DecidableEq, Repr

namespace DataSource

/-- The datasource that attributes define. All five attributes are mandatory; the first one
that is missing, in the order of the fields, is the error. -/
def ofAttributes (attributes : Attributes) : Except DefinitionError DataSource := do
  let name ← attributes.require "name"
  let server ← attributes.require "server"
  let database ← attributes.require "database"
  let user ← attributes.require "user"
  let password ← attributes.require "password"
  return ⟨name, server, database, user, password⟩

/-- The datasource that the definition in a declaration writes. -/
def parse (definition : Text) : Except DefinitionError DataSource :=
  (Attributes.parse definition).bind ofAttributes

/-- The description of the connection that is opened to run a query. -/
def connectionString (source : DataSource) : Text :=
  "Data Source=" ++ source.server ++ "; Initial Catalog=" ++ source.database ++
    "; User ID=" ++ source.user ++ "; Password=" ++ source.password

/-- A description for people, which does not show the password. -/
def describe (source : DataSource) : Text :=
  "DataSourceDefinition \x7b name: " ++ Text.quoted source.name ++ ", server: " ++
    Text.quoted source.server ++ ", database: " ++ Text.quoted source.database ++ ", user: " ++
    Text.quoted source.user ++ ", password: " ++ Text.quoted "<redacted>" ++ " \x7d"

/-- The datasource in data that programs exchange: without the password. -/
def serialized (source : DataSource) : Json :=
  .ofMembers [("name", .string source.name), ("server", .string source.server),
    ("database", .string source.database), ("user", .string source.user)]

end DataSource

end BoundReport
