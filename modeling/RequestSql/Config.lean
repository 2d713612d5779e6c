import RequestSql.Json.Writer
import RequestSql.Schema.Wire

/-!
# Configuration

A configuration file is JSON text with the schema and, where the default does not suit,
the limit of pages that have none. A file that cannot be used is refused with the
reason; a built-in configuration can stand in for it.

Key definitions: `Config`, `Config.reader`, `Config.load`, `Config.demo`.
-/

namespace RequestSql

/-- What the compiler is told. -/
structure Config where
  /-- The limit of pages that have none. -/
  defaultLimit : UInt64
  schema : Schema
deriving DecidableEq

/-- Why a configuration file cannot be used. -/
inductive ConfigError where
  | notFound (path : String)
  /-- The content is not UTF-8. -/
  | unreadable (path : String)
  | unparsable (path : String) (fault : Json.TextFault)
deriving DecidableEq, Repr

/-- The text of the error. -/
def ConfigError.message : ConfigError → String
  | notFound path => "配置文件不存在: " ++ path
  | unreadable path =>
    "无法读取配置文件 " ++ path ++ ": stream did not contain valid UTF-8"
  | unparsable path fault => "无法解析JSON配置文件 " ++ path ++ ": " ++ fault.message

namespace Config

/-- The limit of pages that have none, where the file does not say another. -/
def standardLimit : UInt64 := 1000

/-- The JSON form of a configuration. -/
def toJson (config : Config) : Json :=
  .object [("compiler", .object [("default_limit", .count config.defaultLimit)]),
    ("schema", config.schema.toJson)]

/-- The text of a configuration. -/
def write (config : Config) : String := config.toJson.write

/-- Reads the settings of the compiler, of which there is one: the limit. -/
def limitReader : Json.Reader UInt64 :=
  Json.Reader.record "CompilerConfig"
    [Json.Reader.field "default_limit" id (fun _ v => some v) Json.Reader.count]
    none fun limit => .ok (limit.getD standardLimit)

/-- The fields of a configuration that have been read. -/
structure Draft where
  compiler : Option UInt64
  schema : Option Schema

/-- How the fields of a configuration are read. -/
def draftFields : List (Json.Reader.Field Draft) :=
  [Json.Reader.field "compiler" (·.compiler) (fun d v => { d with compiler := some v })
      limitReader,
    Json.Reader.field "schema" (·.schema) (fun d v => { d with schema := some v })
      Schema.reader]

/-- The configuration that a draft is, if its schema is not left out. -/
def Draft.finish (d : Draft) : Except String Config := do
  return ⟨d.compiler.getD standardLimit, ← Json.Reader.needed "schema" d.schema⟩

/-- Reads a configuration. -/
def reader : Json.Reader Config :=
  Json.Reader.record "AppConfig" draftFields ⟨none, none⟩ Draft.finish

/-- The configuration that a text is. -/
def ofText (text : String) : Except Json.TextFault Config := Json.Reader.run reader text

/-- The configuration in a file, given its content if there is such a file. -/
def load (path : String) (content : Option ByteArray) : Except ConfigError Config :=
  match content with
  | none => .error (.notFound path)
  | some bytes =>
    match String.fromUTF8? bytes with
    | none => .error (.unreadable path)
    | some text => (ofText text).mapError (.unparsable path)

/-- The entities of the built-in configuration. -/
def demoEntities : NameMap Entity :=
  .ofList
    [("Item",
        { table := "items"
          fields := .ofList [("id", "id"), ("name", "name"), ("age", "age"),
            ("created_at", "created_at"), ("deleted", "deleted_at")]
          associations := .ofList [("owner", ⟨"Owner", ["id"], ["owner_id"]⟩)] }),
      ("Owner",
        { table := "owners"
          fields := .ofList [("id", "id"), ("name", "name"), ("city", "city")]
          associations := .empty })]

/-- The built-in configuration: items and their owners. -/
def demo : Config := ⟨standardLimit, demoEntities, by decide +kernel⟩

end Config

end RequestSql
