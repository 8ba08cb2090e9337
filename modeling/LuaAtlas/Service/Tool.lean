import LuaAtlas.Json.Basic

/-!
# The tools of the service

Each tool has a name, a description and a schema for its arguments.
-/

namespace LuaAtlas

/-- What a tool does, and how it is called. -/
inductive Tool where
  | buildDatabase
  | listDatabases
  | searchSymbols
  | getSymbol
  | getSymbols
  | getFileOutline
  | getClassTree
  | listUnresolved
  | getReferences
  deriving Repr, DecidableEq

namespace Tool

/-- All tools, in the order in which they are offered. -/
def all : List Tool :=
  [buildDatabase, listDatabases, searchSymbols, getSymbol, getSymbols, getFileOutline,
   getClassTree, listUnresolved, getReferences]

/-- The name of a tool. -/
def name : Tool → String
  | buildDatabase => "build_database"
  | listDatabases => "list_databases"
  | searchSymbols => "search_symbols"
  | getSymbol => "get_symbol"
  | getSymbols => "get_symbols"
  | getFileOutline => "get_file_outline"
  | getClassTree => "get_class_tree"
  | listUnresolved => "list_unresolved"
  | getReferences => "get_references"

/-- The tool with a name. -/
def ofName? (name : String) : Option Tool := all.find? (·.name == name)

/-- Every tool is found under its name. -/
theorem ofName?_name (t : Tool) : ofName? t.name = some t := by
  cases t <;> decide

/-- What a tool is for. -/
def description : Tool → String
  | buildDatabase =>
    "Parse Lua annotation declaration files (---@class, ---@enum, ---@alias, function stubs) " ++
      "into a cross-referenced symbol database held in memory."
  | listDatabases => "List all built databases with their source files and statistics."
  | searchSymbols =>
    "Search classes, enums, aliases and global functions by name. Optionally include " ++
      "properties, methods and parameters."
  | getSymbol =>
    "Get a symbol's members, parsed type signatures, reference count and declaration source. " ++
      "Use after search_symbols or get_file_outline."
  | getSymbols => "Get details of multiple symbols in one call."
  | getFileOutline =>
    "Get all symbols declared in a declaration file, in line order, with properties, methods " ++
      "and enum values."
  | getClassTree => "Get the class inheritance tree, optionally rooted at one class."
  | listUnresolved =>
    "List type names that are referenced but never declared, most referenced first."
  | getReferences =>
    "List the properties, parameters, methods and global functions that reference a symbol."

/-! ### Schemas -/

/-- An argument of a type, with a description and further fields. -/
def argument (type description : String) (more : List (String × Json)) : Json :=
  .obj ([("type", .str type), ("description", .str description)] ++ more)

/-- The argument that names a catalogue. -/
def databaseArgument : Json :=
  argument "string" "Database name given to build_database" [("default", .str "default")]

/-- An argument that is a list. -/
def listArgument (item description : String) : Json :=
  .obj [("type", .str "array"), ("items", .obj [("type", .str item)]),
    ("description", .str description)]

/-- The schema of an object with arguments, some of which are required. -/
def object (arguments : List (String × Json)) (required : List String) : Json :=
  .obj ([("type", .str "object"), ("properties", .obj arguments)] ++
    if required.isEmpty then [] else [("required", .arr (required.map .str))])

/-- The arguments of a search. -/
def searchArguments : List (String × Json) :=
  [("query", argument "string"
      "Case-insensitive substring, or a regular expression when regex is true" []),
    ("database", databaseArgument),
    ("kind", argument "string" "Optional filter by symbol kind"
      [("enum", .arr (["Class", "Enum", "Alias", "GlobalFunction", "Unknown"].map .str))]),
    ("regex", argument "boolean" "Treat query as a regular expression"
      [("default", .bool false)]),
    ("include_members", argument "boolean" "Also search properties, methods and parameters"
      [("default", .bool false)]),
    ("max_results", argument "integer" "Maximum number of results per category"
      [("default", .int 20)])]

/-- **The arguments that a tool takes.** -/
def schema : Tool → Json
  | buildDatabase =>
    object [("paths", listArgument "string"
        "Declaration file paths in processing order. Defaults to LUATYPES_SOURCES."),
      ("name", databaseArgument)] []
  | listDatabases => object [] []
  | searchSymbols => object searchArguments ["query"]
  | getSymbol =>
    object [("symbol_id", argument "integer"
        "Symbol ID from search_symbols or get_file_outline" []),
      ("database", databaseArgument)] ["symbol_id"]
  | getSymbols =>
    object [("symbol_ids", listArgument "integer" "List of symbol IDs to retrieve"),
      ("database", databaseArgument)] ["symbol_ids"]
  | getFileOutline =>
    object [("file", argument "string" "File index, path, or path suffix (e.g. 'Actor.lua')" []),
      ("database", databaseArgument)] ["file"]
  | getClassTree =>
    object [("database", databaseArgument),
      ("root", argument "string" "Optional class name to root the tree at" [])] []
  | listUnresolved => object [("database", databaseArgument)] []
  | getReferences =>
    object [("symbol", .obj [("type", .arr [.str "integer", .str "string"]),
        ("description", .str "Symbol ID or exact name")]),
      ("database", databaseArgument)] ["symbol"]

/-- A tool as it is offered. -/
def offer (t : Tool) : Json :=
  .obj [("name", .str t.name), ("description", .str t.description), ("inputSchema", t.schema)]

end Tool

end LuaAtlas
