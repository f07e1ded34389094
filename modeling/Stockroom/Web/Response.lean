import Stockroom.Json.Value
import Stockroom.Service.Error
import Stockroom.Text.Quoted

/-!
# Web/Response — answers to requests, good and bad

A `Response` is a status and a body.  A problem that the service knows of is answered with a code for
programs and a sentence for people (`Response.problem`); here is which problem gets which.
-/

namespace Stockroom.Web

open Json (Value)

/-- What a response carries. -/
inductive Body where
  | json (value : Value)
  | text (value : String)

/-- The answer to a request. -/
structure Response where
  status : Nat
  body : Body

namespace Response

def ok (value : Value) : Response := ⟨200, .json value⟩

def created (value : Value) : Response := ⟨201, .json value⟩

def empty (status : Nat) : Response := ⟨status, .text ""⟩

def noContent : Response := empty 204
def notFound : Response := empty 404
def methodNotAllowed : Response := empty 405

/-- A problem with a code and a sentence. -/
def problem (status : Nat) (code sentence : String) : Response :=
  ⟨status, .json (.object [("error", .text sentence), ("code", .text code)])⟩

def missingUser : Response := problem 401 "MISSING_USER" "X-User-Id ヘッダーが必要です"

def invalidUser : Response := problem 400 "INVALID_USER" "X-User-Id ヘッダーの形式が不正です"

def invalidOperator : Response :=
  problem 400 "INVALID_OPERATOR" "X-Operator-Id ヘッダーの形式が不正です"

def invalidQuery : Response := problem 400 "INVALID_PARAMETER" "無効なクエリパラメータです"

def invalidTtl : Response :=
  problem 400 "INVALID_VALUE" "ttl_seconds は1以上である必要があります"

/-- What is wrong with a body. -/
inductive BodyFault where
  | notAnnounced
  | malformed
  | mismatched
deriving DecidableEq, Repr

def BodyFault.message : BodyFault → String
  | notAnnounced => "Expected request with `Content-Type: application/json`"
  | malformed => "Failed to parse the request body as JSON"
  | mismatched => "Failed to deserialize the JSON body into the target type"

def invalidBody (fault : BodyFault) : Response := problem 400 "INVALID_BODY" fault.message

/-- An open segment that should be a number and is not. -/
def unreadableNumber (part : String) : Response :=
  ⟨400, .text s!"Invalid URL: Cannot parse `{Text.quoted part}` to a `i64`"⟩

/-- An open segment that is no text. -/
def unreadableText (name : String) : Response :=
  ⟨400, .text s!"Invalid URL: Invalid UTF-8 in `{name}`"⟩

/-- The response to a request that a business rule turns down. -/
def ofRefusal (r : Refusal) : Response :=
  match r with
  | .insufficientStock .. => problem 422 "INSUFFICIENT_STOCK" r.message
  | .invalidAdjustment .. => problem 422 "INVALID_ADJUSTMENT" r.message
  | .invalidMove _ => problem 422 "INVALID_STATE_TRANSITION" r.message
  | .invalidQuantity _ => problem 400 "INVALID_QUANTITY" r.message
  | .invalidValue _ => problem 400 "INVALID_VALUE" r.message

/-- **The response to a call that ends without a result.** -/
def ofError (e : ServiceError) : Response :=
  match e with
  | .refused refusal => ofRefusal refusal
  | .notFound subject => problem 404 "NOT_FOUND" subject.notFoundText
  | .alreadyExists clash => problem 409 "ALREADY_EXISTS" clash.text
  | .concurrentUpdate _ => problem 409 "CONCURRENT_UPDATE" e.message
  | .retriesExhausted .. => problem 409 "RETRIES_EXHAUSTED" e.message
  | .storeFailed error => problem 500 "REPOSITORY_ERROR" error.message

end Response

end Stockroom.Web
