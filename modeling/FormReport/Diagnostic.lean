import FormReport.Error
import FormReport.Text.Lowercase

set_option autoImplicit false

/- What users are told about a failure. A mistake in the report's definition comes with a remedy;
all that is not understood is a system fault, whose text stays hidden unless the settings show it.
-/
namespace FormReport

inductive ErrorKind where
  | noFieldsSelected
  | accessDenied
  | reportNotFound
  | groupingMismatch
  | numericCoercionFailure
  | unknownFieldReference
  | malformedValuePath
  | expressionSyntaxError
  | genericExecutionFailure
  deriving DecidableEq

namespace ErrorKind

def name : ErrorKind → String
  | noFieldsSelected => "NoFieldsSelected"
  | accessDenied => "AccessDenied"
  | reportNotFound => "ReportNotFound"
  | groupingMismatch => "GroupingMismatch"
  | numericCoercionFailure => "NumericCoercionFailure"
  | unknownFieldReference => "UnknownFieldReference"
  | malformedValuePath => "MalformedValuePath"
  | expressionSyntaxError => "ExpressionSyntaxError"
  | genericExecutionFailure => "GenericExecutionFailure"

/-- The status that a web answer with this failure has. -/
def status : ErrorKind → Nat
  | accessDenied => 403
  | reportNotFound => 404
  | genericExecutionFailure => 500
  | _ => 400

def isSystemFault : ErrorKind → Bool
  | genericExecutionFailure => true
  | _ => false

def message : ErrorKind → String
  | noFieldsSelected => "报表未选择任何显示字段、聚合字段或计算字段"
  | accessDenied => "您没有权限查看此报表"
  | reportNotFound => "报表不存在或已被删除"
  | groupingMismatch => "分组字段与聚合字段不匹配"
  | numericCoercionFailure => "数值转换失败，部分字段的值无法作为数字参与计算"
  | unknownFieldReference => "报表引用了不存在的字段"
  | malformedValuePath => "提交数据的结构与表单字段不一致，无法读取字段值"
  | expressionSyntaxError => "计算公式存在语法错误"
  | genericExecutionFailure => "报表执行失败（系统故障）"

/-- What the user can do about the failure. -/
def suggestion : ErrorKind → String
  | noFieldsSelected => "请修改报表配置：至少选择一个显示字段、聚合函数或计算字段后重试"
  | accessDenied => "请联系报表创建者或管理员为您的角色或账号授予访问权限"
  | reportNotFound => "请刷新报表列表后重新选择报表"
  | groupingMismatch => "请修改报表配置：计算公式引用的字段必须已选为显示字段或已配置聚合函数"
  | numericCoercionFailure =>
    "请修改报表配置：确认参与聚合或计算的字段为数字类型，并检查提交数据中的非数字内容"
  | unknownFieldReference => "请修改报表配置：所选字段可能已被删除或重命名，请重新选择字段"
  | malformedValuePath => "请检查对应表单的提交记录格式，或联系管理员修复历史数据"
  | expressionSyntaxError =>
    "请修改报表配置：检查计算公式中的字段名、运算符（+ - * /）和括号是否完整配对"
  | genericExecutionFailure => "系统故障，请稍后重试；如问题持续存在，请联系系统管理员"

/-- The phrases by which the text of a backend is understood, in order of precedence. -/
def backendPhrases : List (ErrorKind × List String) :=
  [(groupingMismatch, ["group by", "grouping", "must appear in the group"]),
   (numericCoercionFailure,
    ["invalid input syntax for type numeric", "invalid input syntax for type double",
     "invalid input syntax for type integer", "cannot cast", "could not convert"]),
   (unknownFieldReference,
    ["does not exist", "unknown column", "no such column", "unknown field"]),
   (malformedValuePath,
    ["cannot extract", "json path", "jsonpath", "invalid path", "malformed"]),
   (expressionSyntaxError, ["syntax error"])]

/-- The first kind with a phrase that occurs in a backend's text, in any case. -/
def ofBackendText? (text : String) : Option ErrorKind :=
  let lowered := Text.lowercase text
  (backendPhrases.find? fun entry => entry.2.any (Text.containsText lowered)).map (·.1)

def ofPlanError : PlanError → ErrorKind
  | .noFieldsSelected => noFieldsSelected
  | .unknownReference _ => unknownFieldReference
  | .invalidIdentifier _ _ => unknownFieldReference
  | .invalidExpression _ _ => expressionSyntaxError
  | .ungroupedReference _ _ => groupingMismatch

def ofStoreError : StoreError → ErrorKind
  | .groupingMismatch _ => groupingMismatch
  | .numericCoercion _ => numericCoercionFailure
  | .unknownField _ => unknownFieldReference
  | .malformedPath _ => malformedValuePath
  | .invalidExpression _ => expressionSyntaxError
  | .backend detail => (ofBackendText? detail).getD genericExecutionFailure

def ofRunError : RunError → ErrorKind
  | .malformedPath _ _ _ => malformedValuePath
  | .numericOverflow _ => numericCoercionFailure
  | .store error => ofStoreError error

def ofReportError : ReportError → ErrorKind
  | .reportNotFound _ => reportNotFound
  | .accessDenied _ _ => accessDenied
  | .plan error => ofPlanError error
  | .run error => ofRunError error

end ErrorKind

/-- The answer to a user whose report failed. -/
structure Diagnostic where
  kind : ErrorKind
  message : String
  suggestion : String
  /-- The text of the failure itself, where it may be shown. -/
  detail : Option String
  deriving DecidableEq

namespace Diagnostic

def ofError (error : ReportError) (developmentMode : Bool) : Diagnostic :=
  let kind := ErrorKind.ofReportError error
  { kind
    message := kind.message
    suggestion := kind.suggestion
    detail :=
      if !kind.isSystemFault || developmentMode then some error.message else none }

def status (diagnostic : Diagnostic) : Nat := diagnostic.kind.status

end Diagnostic

end FormReport
