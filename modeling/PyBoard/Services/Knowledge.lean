/-
  PyBoard.Services.Knowledge — the page of a knowledge entry.

  A body is a Jinja template.  For a reader without a subscription URL the text between access
  marks is removed before the template is rendered.
-/
import PyBoard.Python.Between
import PyBoard.Services.Subscribe

namespace PyBoard

open Relational

/-- Knowledge 数据库实体; `visible` is its column `show`. -/
structure Knowledge where
  id : Int
  language : String
  category : String
  title : String
  body : String
  sort : Option Int := none
  visible : Bool := false
  created_at : Int := 0
  updated_at : Int := 0

namespace KnowledgeService

variable (rt : Runtime) (fm : Formats)

/-- `Environment(autoescape=False).from_string(body).render(**context)`. -/
abbrev Jinja : Type := String → JsonDict → Except PyExc String

/-! ## §1. The body. -/

def accessStart : List Char := "<!--access start-->".toList
def accessEnd : List Char := "<!--access end-->".toList

/-- What of a body is rendered for a reader. -/
def visibleBody {α : Type} (char : α → Char) (has_subscribe : Bool) (body : List α) : List α :=
  if has_subscribe then body else Between.removeBetween char accessStart accessEnd body

/-- `str(context.get(key) or "")`. -/
def strOrEmpty (context : JsonDict) (key : String) : String :=
  rt.str ((dictGet context key).or (.str ""))

/-- `_knowledge_context`. -/
def knowledgeContext (context : JsonDict) : JsonDict :=
  let subscribe_url := strOrEmpty rt context "subscribeUrl"
  let subscribe_token := strOrEmpty rt context "subscribeToken"
  dictUpdate context
    [("siteName", (dictGet context "siteName").or (.str "")),
      ("subscribeUrl", .str subscribe_url),
      ("urlEncodeSubscribeUrl", .str (fm.quote subscribe_url)),
      ("safeBase64SubscribeUrl", .str (base64Urlsafe subscribe_url)),
      ("subscribeToken", .str subscribe_token)]

/-- `bool(context.get("subscribeUrl"))`. -/
def hasSubscribe (context : JsonDict) : Bool := (dictGet context "subscribeUrl").truthy

/-- 使用 Jinja2 渲染知识库正文，并处理订阅用户可见内容。 -/
def renderBody (jinja : Jinja) (body : String) (context : JsonDict) : Except PyExc String :=
  jinja (String.ofList (visibleBody id (hasSubscribe context) body.toList))
    (knowledgeContext rt fm context)

/-- 用户端详情; `knowledge` is what `get_visible` finds. -/
def getPublic (jinja : Jinja) (knowledge_id : Int) (knowledge : Option Knowledge)
    (context : JsonDict) : Except PyExc Knowledge :=
  match knowledge with
  | none => .error (NotFoundException ("知识 " ++ toString knowledge_id ++ " 不存在"))
  | some knowledge => do
    let body ← renderBody rt fm jinja knowledge.body context
    return { knowledge with body := body }

/-! ## §2. The page. -/

/-- `context` of `get_knowledge`; `current_user` is the identifier of the login. -/
def readerContext (current_user : Option Int) (token_bytes : List UInt8) : Db JsonDict := do
  let app_name ← SettingService.Cached.getStr rt "app_name" "PyBoard"
  let context : JsonDict := [("siteName", .str app_name)]
  match current_user with
  | none => return context
  | some user_id =>
    match ← UserRepository.getById user_id with
    | none => return context
    | some user =>
      let subscribe_url ← SubscribeService.buildSubscribeUrl rt fm user token_bytes
      return context ++
        [("subscribeUrl", .str subscribe_url), ("subscribeToken", .str (User.token user))]

/-- 知识详情（仅返回已上线条目）。 -/
def getKnowledge (jinja : Jinja) (knowledge_id : Int) (knowledge : Option Knowledge)
    (current_user : Option Int) (token_bytes : List UInt8) : Db Knowledge := do
  let context ← readerContext rt fm current_user token_bytes
  liftExcept (getPublic rt fm jinja knowledge_id knowledge context)

end KnowledgeService

end PyBoard
