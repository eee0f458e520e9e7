import ContentQuery.Execution.Query
import ContentQuery.Json.Printer
import ContentQuery.Report.Table

/-!
# Reports

Query results as a table, as one paragraph for each row or as JSON, the description of a type, and
the help text.
-/

set_option autoImplicit false

namespace ContentQuery.Report

/-- The forms of a result. -/
inductive Mode
  | table
  | vertical
  | json
deriving DecidableEq, Repr

/-- The mode of a name. -/
def Mode.ofName? (name : String) : Option Mode :=
  if name == "table" then some .table
  else if name == "vertical" then some .vertical
  else if name == "json" then some .json
  else none

/-! ## JSON -/

/-- A value under the name of its kind. -/
def jsonOfValue : Value → Json
  | .boolean b => .object [("Boolean", .bool b)]
  | .integer n => .object [("Integer", .number (.integer n.toInt))]
  | .decimal d => .object [("Decimal", .string d.toText)]
  | .string s => .object [("String", .string s)]
  | .datetime t => .object [("DateTime", .string (t.toText .zulu))]
  | .id s => .object [("Id", .string s)]

def jsonOfProperty : PropertyValue → Json
  | .single v => .object [("Single", jsonOfValue v)]
  | .multi vs => .object [("Multi", .array (vs.map jsonOfValue))]

def jsonOfCell : Option PropertyValue → Json
  | some p => .object [("Scalar", jsonOfProperty p)]
  | none => .string "Null"

def jsonOfStats (s : QueryStats) (milliseconds : Nat) : Json :=
  .object [("objects_scanned", .ofNat s.scanned), ("rows_matched", .ofNat s.matched),
    ("rows_returned", .ofNat s.returned), ("evaluation_errors", .ofNat s.errors),
    ("execution_time_ms", .ofNat milliseconds)]

def jsonOfResult (r : QueryResult) (milliseconds : Nat) : Json :=
  .object [("columns", .array (r.columns.map .string)),
    ("rows", .array (r.rows.map fun row => .array (row.map jsonOfCell))),
    ("stats", jsonOfStats r.stats milliseconds), ("has_more_items", .bool r.hasMoreItems),
    ("num_items", .ofNat r.numItems)]

/-! ## Rows as text -/

def cellText : Option PropertyValue → String
  | some p => p.toText
  | none => "NULL"

/-- One column of a row on a line of its own, its heading aligned to the right. -/
def verticalLine (width : Nat) (heading cell : String) : String :=
  String.ofList (List.replicate (width - heading.length) ' ') ++ heading ++ ": " ++ cell ++ "\n"

/-- A row as a paragraph. -/
def verticalRow (width : Nat) (columns : List String) (number : Nat) (row : List String) :
    String :=
  let stars := "***************************"
  let lines := (List.range columns.length).map fun j =>
    verticalLine width (columns.getD j "") (row.getD j "")
  stars ++ " " ++ toString number ++ ". row " ++ stars ++ "\n" ++ String.join lines

/-- Rows as paragraphs. The headings are as wide as the longest one is in bytes. -/
def vertical (columns : List String) (rows : List (List String)) : String :=
  let width := (columns.map String.utf8ByteSize).foldl max 0
  String.join ((List.range rows.length).map fun i =>
    verticalRow width columns (i + 1) (rows.getD i []))

/-- The line below the rows. -/
def summary (r : QueryResult) (milliseconds : Nat) : String :=
  let more :=
    if r.hasMoreItems then ", " ++ toString r.numItems ++ " total, more available" else ""
  toString r.rows.length ++ " row(s) in set" ++ more ++ " (" ++ toString milliseconds ++ " ms)\n"

/-- A result in the given form. -/
def result (mode : Mode) (r : QueryResult) (milliseconds : Nat) : String :=
  match mode with
  | .json => (jsonOfResult r milliseconds).toPrettyText ++ "\n"
  | .table => rowsWith table
  | .vertical => rowsWith vertical
where
  rowsWith (layout : List String → List (List String) → String) : String :=
    if r.columns.isEmpty || r.rows.isEmpty then
      "Empty set (" ++ toString milliseconds ++ " ms)\n"
    else
      layout r.columns (r.rows.map (·.map cellText)) ++ "\n" ++ summary r milliseconds

/-! ## Types -/

def boolText (b : Bool) : String := if b then "true" else "false"

def cardinalityText : Cardinality → String
  | .single => "Single"
  | .multi => "Multi"

def propertyRow (p : PropertyDefinition) : List String :=
  [p.queryName, p.kind.name, cardinalityText p.cardinality, boolText p.queryable,
    boolText p.orderable]

/-- A type with a table of its properties. -/
def typeDescription (t : TypeDefinition) : String :=
  t.id ++ " (parent: " ++ t.parentId.getD "-" ++ ", queryable: " ++ boolText t.queryable
    ++ ", fulltext: " ++ boolText t.fulltextIndexed ++ ")\n"
    ++ table ["Property", "Type", "Cardinality", "Queryable", "Orderable"]
      (t.properties.map propertyRow)

/-! ## Help -/

def doubleRule : String := String.ofList (List.replicate 63 '═')

def singleRule : String := String.ofList (List.replicate 63 '─')

def helpLines : List String :=
  ["",
    doubleRule,
    "                   cmis-query 命令帮助",
    doubleRule,
    "",
    "基础命令:",
    "  help, h, ?           显示帮助",
    "  quit, exit, q        退出程序",
    "  types                列出所有类型",
    "  describe <类型>      查看类型的属性定义",
    "                       示例: describe cmis:document",
    "  mode <table|vertical|json>",
    "                       切换输出格式",
    "",
    "  其余输入按 CMIS-QL 语句执行",
    "",
    singleRule,
    "CMIS-QL 语句",
    singleRule,
    "",
    "  SELECT * FROM cmis:document",
    "  SELECT cmis:name AS name FROM cmis:document WHERE cmis:name LIKE 'rep%'",
    "  SELECT d.cmis:name, SCORE() s FROM cmis:document d",
    "         WHERE CONTAINS(d, 'budget -draft') ORDER BY s DESC",
    "  SELECT * FROM cmis:folder WHERE IN_TREE('root')",
    "  SELECT * FROM cmis:document WHERE 'red' = ANY Tags",
    "  SELECT a.cmis:name, b.cmis:name FROM A a LEFT OUTER JOIN B b",
    "         ON a.Ref = b.cmis:objectId",
    "",
    "提示: 在语句末尾加 \\G 可垂直显示结果",
    "",
    doubleRule,
    ""]

def help : String := "\n".intercalate helpLines

end ContentQuery.Report
