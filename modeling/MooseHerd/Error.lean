import MooseHerd.Files
import MooseHerd.Http.Fault
import MooseHerd.Json.Reader
import MooseHerd.Settings.Fault

/-! The faults that end an operation, with their codes and messages. -/

namespace MooseHerd

inductive Error where
  | settings (fault : Settings.Fault)
  | invalidArgument (field message : String)
  | unreadable (path : String) (fault : Files.Fault)
  /-- The names that were found before the draws were used up are too few. -/
  | namesExhausted (letter : Char) (requested found attempts : Nat)
  | distribution (message : String)
  | serialization (fault : Json.Fault)
  | http (fault : Http.Fault)
  | alreadyExists (kind name : String)
  | notFound (resource : String)
  | unauthorized
  | forbidden (operation : String)
  | validation (message : String)
  /-- A server that refuses for another reason, with its status. -/
  | service (status : Nat) (message : String)
  /-- A batch that stopped at the document with the given name, after some were created. -/
  | aborted (created total : Nat) (name : String) (cause : Error)
  deriving Repr, BEq, Inhabited

def Json.Fault.message : Json.Fault → String
  | malformed => "malformed document"
  | truncated => "unexpected end of the document"
  | mismatched message => message

namespace Error

/-- The code of the fault; a batch that stopped has the code of its cause. -/
def code : Error → String
  | settings _ => "CONFIG_ERROR"
  | invalidArgument _ _ => "INVALID_ARGUMENT"
  | unreadable _ _ => "IO_ERROR"
  | namesExhausted _ _ _ _ => "NAME_SPACE_EXHAUSTED"
  | distribution _ => "DISTRIBUTION_ERROR"
  | serialization _ => "SERIALIZATION_ERROR"
  | http _ => "HTTP_ERROR"
  | alreadyExists _ _ => "ALREADY_EXISTS"
  | notFound _ => "NOT_FOUND"
  | unauthorized => "UNAUTHORIZED"
  | forbidden _ => "FORBIDDEN"
  | validation _ => "VALIDATION_ERROR"
  | service _ _ => "EXTERNAL_SERVICE_ERROR"
  | aborted _ _ _ cause => cause.code

/-- Whether the operation may succeed when it is started again: transport faults that may pass, too
many requests, and faults on the side of the server. -/
def isRetryable : Error → Bool
  | http fault => fault.isTransient
  | service status _ => status == 429 || 500 ≤ status
  | aborted _ _ _ cause => cause.isRetryable
  | _ => false

def createdBeforeFailure : Error → Option Nat
  | aborted created _ _ _ => some created
  | _ => none

def message : Error → String
  | settings fault => "配置加载失败: " ++ fault.text
  | invalidArgument field message => "无效的参数: " ++ field ++ " - " ++ message
  | unreadable path _ => "读取文件失败: " ++ path
  | namesExhausted letter requested found attempts =>
    "名字池已耗尽: 需要 " ++ toString requested ++ " 个以 '" ++ letter.toString ++
      "' 开头的名字, 尝试 " ++ toString attempts ++ " 次后仅找到 " ++ toString found ++ " 个"
  | distribution message => "分布参数无效: " ++ message
  | serialization fault => "序列化失败: " ++ fault.message
  | http fault => "HTTP 请求失败: " ++ fault.message
  | alreadyExists kind name => "资源已存在: " ++ kind ++ " name=" ++ name
  | notFound resource => "资源未找到: " ++ resource
  | unauthorized => "未授权访问"
  | forbidden operation => "权限不足: " ++ operation
  | validation message => "资源校验失败: " ++ message
  | service status message => "外部服务错误: HTTP " ++ toString status ++ " - " ++ message
  | aborted created total name cause =>
    "提交中止: 已创建 " ++ toString created ++ "/" ++ toString total ++ ", 在 " ++ name ++
      " 处失败: " ++ cause.message

/-- The messages of the faults behind the fault, the nearest first. -/
def causes : Error → List String
  | settings fault => [fault.text]
  | unreadable _ fault => [fault.message]
  | serialization fault => [fault.message]
  | http fault => [fault.message]
  | aborted _ _ _ cause => cause.message :: cause.causes
  | _ => []

end Error

end MooseHerd
