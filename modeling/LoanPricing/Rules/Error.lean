import LoanPricing.Files
import LoanPricing.Json.Error

/-!
# Rule errors — why a rule set cannot be had

The reasons for which a rules file is refused as a whole, and their wording.
-/

namespace LoanPricing

/-- Why rules, or what they are applied to, are refused. -/
inductive RuleError where
  | file (fault : FileFault)
  | json (error : Json.Error)
  | unknownConditionTag (rule : Nat) (tag : String)
  | unknownActionTag (rule : Nat) (tag : String)
  | invalidActionValue (rule : Nat) (value : Float)
  | invalidInput (text : String)
  deriving DecidableEq, Repr

def ruleNumber (rule : Nat) : String :=
  "规则 #" ++ String.ofList (Text.ofNat rule)

def RuleError.message : RuleError → String
  | .file fault => "规则文件读取失败: " ++ fault.message
  | .json error => "JSON 解析错误: " ++ error.message
  | .unknownConditionTag rule tag => "未知的条件标签: " ++ ruleNumber rule ++ " '" ++ tag ++ "'"
  | .unknownActionTag rule tag => "未知的动作标签: " ++ ruleNumber rule ++ " '" ++ tag ++ "'"
  | .invalidActionValue rule value =>
    "无效的动作取值: " ++ ruleNumber rule ++ " 值 " ++ String.ofList (Decimal.plain value)
  | .invalidInput text => "输入无效: " ++ text

end LoanPricing
