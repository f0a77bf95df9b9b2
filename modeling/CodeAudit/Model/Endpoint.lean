import CodeAudit.Config.Basic
import CodeAudit.Model.Client
import CodeAudit.Text.Line

/-!
# Models behind an endpoint

A model may be reached through an endpoint that completes chats.  Each prompt is one request; the
transport carries it there and may fail to.  The answer is the first content among the choices of
the response.
-/

namespace CodeAudit
namespace Endpoint

open Json

/-- A request to an endpoint. -/
structure Request where
  url : String
  authorization : String
  userAgent : String
  contentType : String
  body : String
  deriving DecidableEq, Inhabited

/-- The response of an endpoint. -/
structure Response where
  status : Nat
  body : String
  deriving DecidableEq, Inhabited

/-- What carries the request with a number to an endpoint and brings the response back. -/
abbrev Transport := (number : Nat) → Request → Option Response

/-- Why a call of an endpoint fails. -/
inductive CallFault where
  | unreachable
  | refused (response : Response)
  | unreadable
  | noContent
  deriving DecidableEq

/-- The reason phrase of a status. -/
def reason? : (status : Nat) → Option String
  | 100 => some "Continue"
  | 101 => some "Switching Protocols"
  | 102 => some "Processing"
  | 200 => some "OK"
  | 201 => some "Created"
  | 202 => some "Accepted"
  | 203 => some "Non Authoritative Information"
  | 204 => some "No Content"
  | 205 => some "Reset Content"
  | 206 => some "Partial Content"
  | 207 => some "Multi-Status"
  | 208 => some "Already Reported"
  | 226 => some "IM Used"
  | 300 => some "Multiple Choices"
  | 301 => some "Moved Permanently"
  | 302 => some "Found"
  | 303 => some "See Other"
  | 304 => some "Not Modified"
  | 305 => some "Use Proxy"
  | 307 => some "Temporary Redirect"
  | 308 => some "Permanent Redirect"
  | 400 => some "Bad Request"
  | 401 => some "Unauthorized"
  | 402 => some "Payment Required"
  | 403 => some "Forbidden"
  | 404 => some "Not Found"
  | 405 => some "Method Not Allowed"
  | 406 => some "Not Acceptable"
  | 407 => some "Proxy Authentication Required"
  | 408 => some "Request Timeout"
  | 409 => some "Conflict"
  | 410 => some "Gone"
  | 411 => some "Length Required"
  | 412 => some "Precondition Failed"
  | 413 => some "Payload Too Large"
  | 414 => some "URI Too Long"
  | 415 => some "Unsupported Media Type"
  | 416 => some "Range Not Satisfiable"
  | 417 => some "Expectation Failed"
  | 418 => some "I'm a teapot"
  | 421 => some "Misdirected Request"
  | 422 => some "Unprocessable Entity"
  | 423 => some "Locked"
  | 424 => some "Failed Dependency"
  | 425 => some "Too Early"
  | 426 => some "Upgrade Required"
  | 428 => some "Precondition Required"
  | 429 => some "Too Many Requests"
  | 431 => some "Request Header Fields Too Large"
  | 451 => some "Unavailable For Legal Reasons"
  | 500 => some "Internal Server Error"
  | 501 => some "Not Implemented"
  | 502 => some "Bad Gateway"
  | 503 => some "Service Unavailable"
  | 504 => some "Gateway Timeout"
  | 505 => some "HTTP Version Not Supported"
  | 506 => some "Variant Also Negotiates"
  | 507 => some "Insufficient Storage"
  | 508 => some "Loop Detected"
  | 510 => some "Not Extended"
  | 511 => some "Network Authentication Required"
  | _ => none

/-- How messages write a status. -/
def statusLabel (status : Nat) : String :=
  toString status ++ " " ++ (reason? status).getD "<unknown status code>"

/-- The wording of a fault. -/
def CallFault.message : CallFault → String
  | .unreachable => "failed to call chat completions API"
  | .refused response =>
    "LLM API error (" ++ statusLabel response.status ++ "): " ++ response.body
  | .unreadable => "failed to parse chat completion response"
  | .noContent => "chat completion response missing message content"

/-- Whether a text may stand in the header of a request. -/
def isHeaderText (text : String) : Bool :=
  text.toUTF8.toList.all fun byte => byte == 9 || 32 ≤ byte && byte != 127

/-- A message of a chat. -/
def message (role content : String) : Value :=
  .object [("role", .text role), ("content", .text content)]

/-- The body of the request for a prompt. -/
def requestBody (config : ModelConfig) (prompt : Prompt) : Value :=
  .object
    [("model", .text config.model),
     ("messages", .list [message "system" prompt.system, message "user" prompt.user]),
     ("temperature", .single config.temperature), ("max_tokens", .ofCount config.maxTokens)]

/-- The address of an endpoint. -/
def address (config : ModelConfig) : String :=
  .ofList (config.baseUrl.toList.reverse.dropWhile (· = '/')).reverse ++ "/chat/completions"

/-- The request for a prompt. -/
def request (config : ModelConfig) (key : String) (prompt : Prompt) : Request where
  url := address config
  authorization := "Bearer " ++ key
  userAgent := "codewarden/0.1.0"
  contentType := "application/json"
  body := (requestBody config prompt).compact

/-- Reads a response. -/
def responseReader : Reader :=
  Reader.record "ChatCompletionResponse"
    [.required "choices" (Reader.list (Reader.record "ChatChoice"
      [.required "message" (Reader.record "ChatResponseMessage"
        [.possible "content" Reader.text])]))]

/-- The contents of the choices of a value. -/
def contentsOf? (value : Value) : Option (List (Option String)) :=
  value.field? "choices" (Value.asListOf? fun choice =>
    choice.field? "message" fun message =>
      message.field? "content" (Value.asOption? Value.asText?))

/-- The answer in a response. -/
def answerOf (response : Response) : Except CallFault String :=
  if response.status < 200 || 300 ≤ response.status then .error (.refused response)
  else
    match responseReader.parse response.body with
    | .error _ => .error .unreadable
    | .ok value =>
      match (contentsOf? value).bind fun contents => contents.findSome? id with
      | some content => .ok content
      | none => .error .noContent

/-- Calls an endpoint. -/
def call (config : ModelConfig) (key : String) (transport : Transport) (number : Nat)
    (prompt : Prompt) : Except CallFault String :=
  if !isHeaderText key then .error .unreachable
  else
    match transport number (request config key prompt) with
    | none => .error .unreachable
    | some response => answerOf response

/-- The message for a configuration without a key. -/
def missingKey : String := "LLM API key not provided"

/-- The model behind the endpoint of a configuration, which must have a key. -/
def client (config : ModelConfig) (transport : Transport) : Except String Client :=
  match config.apiKey.filter fun key => !Text.isBlankText key with
  | none => .error missingKey
  | some key => .ok {
      description := "openai-compatible/" ++ config.model
      answer := fun earlier prompt =>
        (call config key transport earlier.length prompt).mapError CallFault.message }

end Endpoint
end CodeAudit
