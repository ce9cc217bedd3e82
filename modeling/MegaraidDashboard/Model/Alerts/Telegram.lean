import MegaraidDashboard.Model.Services.TelegramCycle
import MegaraidDashboard.Model.Storcli.ForeignConfig
import MegaraidDashboard.ToMathlib.TextReplace

/-! # The Telegram transport

What a send raises. The token stands in the URL of the request; whatever an answer or an exception says goes into the
reason of an error, which is stored with the delivery and logged.
-/

namespace MegaraidDashboard.Alerts

open Services Storcli JsonText

def isSecretChar (c : Char) : Bool := c.isAlphanum || c == '_' || c == '-'

/-- `_TOKEN_PATTERN`: `[0-9]{5,16}:[A-Za-z0-9_-]{30,64}` -/
def tokenPattern (token : List Char) : Bool :=
  match token.splitOn ':' with
  | [digits, secret] => decide (5 ≤ digits.length) && decide (digits.length ≤ 16) && digits.all Char.isDigit &&
      decide (30 ≤ secret.length) && decide (secret.length ≤ 64) && secret.all isSecretChar
  | _ => false

/-- `TelegramConfig`, whose token `_read_token_file` let in. -/
structure TelegramConfig where
  chatId : String
  token : String
  valid : tokenPattern token.toList = true

/-- `TelegramSendError` -/
structure TelegramSendError where
  reason : String
  retryAfterSeconds : Option ℤ
deriving DecidableEq, Repr

/-- `TelegramSendError.__init__` -/
def TelegramSendError.make (reason : String) (retryAfterSeconds : Option ℤ) : TelegramSendError :=
  ⟨reason, boundedRetryAfter retryAfterSeconds⟩

/-- The name of a Python class. -/
structure ClassName where
  text : String
  identifier : ':' ∉ text.toList

/-- The errors that `_read_response` raises itself. -/
inductive ReadError where
  | encoding
  | tooLarge
deriving DecidableEq, Repr

def ReadError.reason : ReadError → String
  | encoding => "unexpected response encoding"
  | tooLarge => "response too large"

/-- What `_send_bounded` comes to. The status is the one of `_ResponseState`, where the headers arrived. -/
inductive Exchange where
  /-- The body is missing when `response.json()` raises. -/
  | response (statusCode : ℕ) (body : Option Value)
  | readError (statusCode : Option ℕ) (error : ReadError)
  | timeout (statusCode : Option ℕ)
  | raised (statusCode : Option ℕ) (type : ClassName)

/-- The status that the provider answered with, if any. -/
def Exchange.statusCode : Exchange → Option ℕ
  | response statusCode _ => some statusCode
  | readError statusCode _ | timeout statusCode | raised statusCode _ => statusCode

/-- `_json_body` -/
def jsonBody : Option Value → Fields
  | some (.obj body) => body
  | _ => []

/-- `_retry_after_seconds` -/
def retryAfterSeconds (body : Fields) : Option ℤ :=
  match body.get "parameters" with
  | some (.obj parameters) => match Fields.get parameters "retry_after" with
    | some (.scalar (.int retryAfter)) => if 0 < retryAfter then some retryAfter else none
    | _ => none
  | _ => none

/-- `_redact` -/
def TelegramConfig.redact (config : TelegramConfig) (value : String) : String :=
  String.ofList (List.replaceAll config.token.toList "[redacted]".toList 0 value.toList)

/-- `_ERROR_DESCRIPTION_MAX_LENGTH` -/
def errorDescriptionMaxLength : ℕ := 160

/-- `TelegramSendError(reason, retry_after_seconds=60 if state.status_code == 429 else None)` -/
def sendError (reason : String) (statusCode : Option ℕ) : TelegramSendError :=
  .make reason (if statusCode = some 429 then some 60 else none)

/-- `value is True` -/
def isTrue : Option Value → Bool
  | some (.scalar (.bool true)) => true
  | _ => false

section Transport

variable [PyText] [PyNumbers]

/-- `_raise_for_response` -/
def TelegramConfig.raiseForResponse (config : TelegramConfig) (statusCode : ℕ) (body : Fields) :
    Except TelegramSendError Unit :=
  let description := ((body.get "description").filter truthy).elim "" Storcli.pyStr
  let description := String.ofList ((config.redact description).toList.take errorDescriptionMaxLength)
  if statusCode = 200 ∧ isTrue (body.get "ok") = true then .ok ()
  else if statusCode = 429 then .error (.make "rate limited" (some ((retryAfterSeconds body).getD 60)))
  else if description ≠ "" then .error (.make ("HTTP " ++ toString statusCode ++ ": " ++ description) none)
  else .error (.make ("HTTP " ++ toString statusCode) none)

/-- `send_async`, once the exchange ended. -/
def TelegramConfig.sendAsync (config : TelegramConfig) : Exchange → Except TelegramSendError Unit
  | .response statusCode body => config.raiseForResponse statusCode (jsonBody body)
  | .readError statusCode error => .error (sendError error.reason statusCode)
  | .timeout statusCode => .error (sendError "timeout" statusCode)
  | .raised statusCode type => .error (sendError ("network error: " ++ type.text) statusCode)

end Transport

end MegaraidDashboard.Alerts
