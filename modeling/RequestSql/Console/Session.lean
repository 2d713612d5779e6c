import RequestSql.Config
import RequestSql.Console.Listing
import RequestSql.Console.Typing
import RequestSql.Query.Select

/-!
# Console sessions

In a session the parameters of a request are set line by line, and `run` shows the
statement that they make. A line is a command and its argument. A setting without an
argument clears the parameter, but the entity stays; `clear` clears all parameters and
also leaves the entity. Every step is a function of the session, so what a line prints
depends on the lines before it only through the settings.

Only the console itself is described here. A logger that writes to the same output puts
lines of its own between those of the console, such as a warning when a request cannot be
compiled; these are left out everywhere.

Key definitions: `Session`, `Command`, `Command.ofLine`, `Session.step`,
`Session.transcript`, `Console.transcript`, `Console.exitCode`.
-/

namespace RequestSql

/-- What has been set in a session. -/
structure Session where
  entity : String
  params : Params
deriving DecidableEq, Repr

/-- What a line can set. -/
inductive Setting where
  | entity
  | filter
  | order
  | fields
  | exclude
  | offset
  | limit
deriving DecidableEq, Repr

/-- What a line says. -/
inductive Command where
  | blank
  | quit
  | help
  | showParams
  | clear
  | run
  | set (setting : Setting) (argument : Option String)
  | unknown (word : String)
deriving DecidableEq, Repr

namespace Command

/-- The command that a word and the argument after it are. -/
def ofWord (word : String) (argument : Option String) : Command :=
  match word with
  | "quit" => quit
  | "exit" => quit
  | "help" => help
  | "show" => showParams
  | "clear" => clear
  | "run" => run
  | "entity" => set .entity argument
  | "filter" => set .filter argument
  | "order" => set .order argument
  | "fields" => set .fields argument
  | "exclude" => set .exclude argument
  | "offset" => set .offset argument
  | "limit" => set .limit argument
  | _ => unknown word

/-- The command that a line is: its first word, and as argument the rest of it without
blanks at the ends, if anything is left. -/
def ofLine (line : String) : Command :=
  let text := Text.trim line.toList
  let word := text.takeWhile (!Text.isBlank ·)
  let argument := Text.trim (text.dropWhile (!Text.isBlank ·))
  if text.isEmpty then blank
  else ofWord (String.ofList word) (if argument.isEmpty then none else some (String.ofList argument))

end Command

namespace Session

/-- The session after a setting. -/
def set (session : Session) (setting : Setting) (argument : Option String) : Session :=
  match setting with
  | .entity => { session with entity := argument.getD session.entity }
  | .filter => { session with params := { session.params with filter := argument } }
  | .order => { session with params := { session.params with orderBy := argument } }
  | .fields => { session with params := { session.params with fields := argument } }
  | .exclude => { session with params := { session.params with excludeFields := argument } }
  | .offset => { session with params := { session.params with offset := argument } }
  | .limit => { session with params := { session.params with limit := argument } }

/-- What explains the commands. -/
def helpLines : List String :=
  ["命令:",
    "  entity <名称>          设置目标实体",
    "  filter <表达式>        例如: name == \"a\" and not age > 5",
    "  order <排序>           例如: created_at desc, owner.name",
    "  fields <字段列表>      例如: name,owner.name",
    "  exclude <字段列表>     反向字段选择",
    "  offset <n> / limit <n> 分页",
    "  show                   显示当前请求",
    "  run                    编译并输出 SQL",
    "  clear                  清空请求参数",
    "  quit                   退出",
    "不带参数的设置命令会清除对应参数。"]

/-- The lines for the values of a statement, numbered from `n` on. -/
def valueLines (n : Nat) : List Value → List String
  | [] => []
  | value :: values =>
    ("  $" ++ toString n ++ " = " ++ value.listing) :: valueLines (n + 1) values

/-- What shows a statement. -/
def selectLines (select : Select) : List String :=
  ["", "[生成的 SQL]:", select.sql, "", "[绑定参数]:"] ++ valueLines 1 select.values ++
    if select.preloads.isEmpty then []
    else ["", "[预加载关联]: " ++ ", ".intercalate select.preloads]

/-- What `run` prints. -/
def runLines (config : Config) (session : Session) : List String :=
  match config.schema.catalog.entity? session.entity with
  | none => ["✗ 未知实体: " ++ session.entity]
  | some entity =>
    match applyRequest config.schema.catalog config.defaultLimit session.entity
        session.params.request (Select.ofTable entity.table) with
    | .ok select => selectLines select
    | .error e => ["✗ 编译失败: " ++ e.message]

/-- What `show` prints. -/
def paramLines (session : Session) : List String :=
  match session.params.listing with
  | [] => [session.entity]
  | line :: lines => (session.entity ++ " " ++ line) :: lines

/-- The session after a command, and what the command prints; none if it ends the
session. -/
def step (config : Config) (session : Session) : Command → Option (Session × List String)
  | .blank => some (session, [])
  | .quit => none
  | .help => some (session, helpLines)
  | .showParams => some (session, session.paramLines)
  | .clear => some ({ session with params := .empty }, [])
  | .run => some (session, session.runLines config)
  | .set setting argument => some (session.set setting argument, [])
  | .unknown word => some (session, ["未知命令: " ++ word ++ "，输入 help 查看帮助"])

/-- What the lines of a session print. -/
def transcript (config : Config) (session : Session) : List String → List String
  | [] => []
  | line :: lines =>
    match session.step config (.ofLine line) with
    | none => []
    | some (next, printed) => printed ++ transcript config next lines

/-- The session at the beginning: the first entity, and no parameters. -/
def initial (config : Config) : Session :=
  ⟨config.schema.entityNames.head?.getD "", .empty⟩

end Session

namespace Console

/-- The configuration that is used, and the line that says where it is from. -/
def configuration (path : String) : Except ConfigError Config → Config × String
  | .ok config => (config, "✅ 成功从JSON配置文件加载: " ++ path)
  | .error e => (.demo, "⚠️ 无法加载JSON配置文件 (" ++ e.message ++ "), 使用演示配置")

/-- What is printed before the first line is read. -/
def greeting (source : String) (config : Config) : List String :=
  let names := config.schema.entityNames
  ["--- Collection Operators: 请求到 SQL 编译器 ---", source,
    "加载了 " ++ toString names.length ++ " 个实体: " ++ ", ".intercalate names] ++
    Session.helpLines

/-- All that the console prints for the content of a configuration file and the lines that
are typed, without the lines of a logger. -/
def transcript (path : String) (content : Option ByteArray) (typed : List String) :
    List String :=
  let (config, source) := configuration path (Config.load path content)
  greeting source config ++ (Session.initial config).transcript config (readLines typed)

/-- The exit code after a line that cannot be read. -/
def unreadableCode : UInt32 := 101

/-- The exit code after the lines that are typed: it tells of a line that cannot be read,
unless the session has ended before. -/
def exitCode (typed : List String) : UInt32 :=
  if (readLines typed).any (Command.ofLine · = .quit) then 0
  else if typed.all (typedLine? · |>.isSome) then 0
  else unreadableCode

end Console

end RequestSql
