import ContentQuery.Literal

/-!
# Binding errors

What can be wrong with a statement that parses, as causes with one wording each.
-/

set_option autoImplicit false

namespace ContentQuery

/-- The lists in which an alias may stand only once. -/
inductive AliasClause
  | select
  | sources
deriving DecidableEq, Repr

def AliasClause.name : AliasClause → String
  | select => "select"
  | sources => "from"

/-- Where a property was looked for. -/
inductive PropertyScope
  | oneType (id : String)
  | types (ids : List String)
deriving DecidableEq, Repr

def PropertyScope.toText : PropertyScope → String
  | oneType id => "type '" ++ id ++ "'"
  | types ids => "types [" ++ ", ".intercalate ids ++ "]"

/-- Why a statement has no meaning although all its names may be known. -/
inductive StatementFault
  | noSources
  | typeNotQueryable (typeId : String)
  | notAProperty (column : String)
  | wildcardOutsideSelect (column : String)
  | aliasMissing (function : String)
  | invalidColumnOperand (column operator : String)
  | invalidOperand (kind operator : String)
  | propertyRequired (operator : String)
  | likeNeedsText (property : String) (kind : ValueKind)
  | likePatternKind (kind : ValueKind)
  | qualifierNotAlias (function : String)
  | folderIdKind (function : String) (kind : ValueKind)
  | secondContains
  | notFullTextIndexed (typeId : String)
deriving DecidableEq, Repr

def StatementFault.message : StatementFault → String
  | noSources => "FROM clause is empty"
  | typeNotQueryable typeId => "type '" ++ typeId ++ "' is not queryable"
  | notAProperty column => "'" ++ column ++ "' does not name a property"
  | wildcardOutsideSelect column => "'" ++ column ++ "' is only valid in the SELECT list"
  | aliasMissing function =>
    function ++ " must name a type alias when more than one type is queried"
  | invalidColumnOperand column operator =>
    "'" ++ column ++ "' is not a valid " ++ operator ++ " operand"
  | invalidOperand kind operator => kind ++ " is not a valid " ++ operator ++ " operand"
  | propertyRequired operator => operator ++ " requires a property operand"
  | likeNeedsText property kind =>
    "LIKE requires a string property, '" ++ property ++ "' is " ++ kind.name
  | likePatternKind kind => "LIKE pattern must be a string, got " ++ kind.name
  | qualifierNotAlias function => function ++ " qualifier must be a type alias"
  | folderIdKind function kind =>
    function ++ " expects a folder id string, got " ++ kind.name
  | secondContains => "only one CONTAINS is allowed per statement"
  | notFullTextIndexed typeId => "type '" ++ typeId ++ "' is not full-text indexed"

/-- Why a statement does not bind. Columns are given as the statement writes them. -/
inductive BindError
  | duplicateAlias (clause : AliasClause) (aliasName : String)
  | unknownType (name : String)
  | unknownProperty (property : String) (scope : PropertyScope)
  | ambiguousProperty (property : String) (aliases : List String)
  | invalidQuantifier (column : String)
  | quantifierRequired (column : String)
  | invalidComparison (operator operand : String)
  | notQueryable (column : String)
  | notOrderable (column : String)
  | malformedLiteral (e : LiteralError)
  | unsupportedFunction (function : String)
  | invalidStatement (fault : StatementFault)
deriving DecidableEq, Repr

def BindError.message : BindError → String
  | duplicateAlias clause aliasName => clause.name ++ " 子句中别名重复: '" ++ aliasName ++ "'"
  | unknownType name => "未知的类型或别名: '" ++ name ++ "'"
  | unknownProperty property scope => scope.toText ++ " 中不存在属性 '" ++ property ++ "'"
  | ambiguousProperty property aliases =>
    "属性 '" ++ property ++ "' 不唯一 (出现在 " ++ ", ".intercalate aliases
      ++ ")，请用类型或别名限定"
  | invalidQuantifier column => "ANY 只能用于多值属性，'" ++ column ++ "' 是单值属性"
  | quantifierRequired column => "属性 '" ++ column ++ "' 是多值属性，只能通过 ANY 查询"
  | invalidComparison operator operand =>
    "运算符 " ++ operator ++ " 不能比较布尔值的大小 (" ++ operand ++ ")"
  | notQueryable column => "属性 '" ++ column ++ "' 不可查询"
  | notOrderable column => "属性 '" ++ column ++ "' 不可排序"
  | malformedLiteral e => e.message
  | unsupportedFunction function => "不支持的函数: '" ++ function ++ "'"
  | invalidStatement fault => "无效的语句: " ++ fault.message

end ContentQuery
