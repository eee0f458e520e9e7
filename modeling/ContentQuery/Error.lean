import ContentQuery.Binding.Error
import ContentQuery.Statement.Lexer

/-!
# Errors

Everything that can go wrong between a query text or a file and a result, as causes with one
wording each.
-/

set_option autoImplicit false

namespace ContentQuery

/-- What can go wrong while the repository is changed or a bound statement runs. -/
inductive ExecutionFault
  | typeExists (id : String)
  | objectExists (id : String)
  | stackUnderflow
  | noResult
  | notAValue (kind : String)
  | likePatternKind (kind : ValueKind)
  | folderIdKind (kind : ValueKind)
  | noSingleValue (id : SelectorId)
  | unboundSelector (selector : String)
  | unboundJoinColumn (column : String)
  | indexFailure (reason : String)
deriving DecidableEq, Repr

def ExecutionFault.message : ExecutionFault → String
  | typeExists id => "Type '" ++ id ++ "' already exists"
  | objectExists id => "Object '" ++ id ++ "' already exists"
  | stackUnderflow => "Evaluation stack underflow"
  | noResult => "Predicate produced no result"
  | notAValue kind => kind ++ " cannot be used as a value"
  | likePatternKind kind => "LIKE pattern must be a string, got " ++ kind.name
  | folderIdKind kind => "Folder id must be a string, got " ++ kind.name
  | noSingleValue id => "Selector " ++ toString id ++ " has no single value"
  | unboundSelector selector => "Selector '" ++ selector ++ "' was not bound"
  | unboundJoinColumn column => "Join column '" ++ column ++ "' was not bound"
  | indexFailure reason => reason

/-- Why a file does not hold what it should. -/
inductive FileFault
  | malformed
  | inconvertible (property json kind : String)
deriving DecidableEq, Repr

def FileFault.message : FileFault → String
  | malformed => "malformed JSON"
  | inconvertible property json kind =>
    "Property '" ++ property ++ "': cannot convert " ++ json ++ " to " ++ kind

/-- Why there is no result. -/
inductive QueryError
  | parse (e : ParseError)
  | literal (e : LiteralError)
  | bind (statement : String) (e : BindError)
  | execution (fault : ExecutionFault)
  | typeNotFound (id : String)
  | objectNotFound (id : String)
  | file (fault : FileFault)
deriving DecidableEq, Repr

namespace QueryError

/-- A literal that does not decode is an error of its own, wherever the parser meets it. -/
def ofParse : ParseError → QueryError
  | .literal e => .literal e
  | e => .parse e

def message : QueryError → String
  | parse e => "解析错误: " ++ e.message
  | literal e => "无法识别的字面量: " ++ e.message
  | bind statement e => "绑定错误: " ++ e.message ++ " (语句: " ++ statement ++ ")"
  | execution fault => "查询执行错误: " ++ fault.message
  | typeNotFound id => "类型不存在: " ++ id
  | objectNotFound id => "对象不存在: " ++ id
  | file fault => "序列化错误: " ++ fault.message

end QueryError

end ContentQuery
