import Conformance.Native.HttpExchange
import Conformance.Native.UrlQuery

/-!
# Masking of URLs and events

`mask_url_query` of `conformance/masking.py` and `BufferedExecutionLogger._mask_payload` of
`conformance/execution_log.py`, for every event type and with developer mode. What
`str` makes of a value that is no text is a parameter.
-/

namespace Conformance

/-- `text.lower()`. -/
def UrlText.lowered (text : UrlText) (value : String) : String :=
  String.ofList (text.lower value.toList)

section Queries

variable (text : UrlText)

/-- One round of the loop over `query_items`. -/
def maskQueryItem (sensitiveNames : List (List Char)) (item : List Char × List Char) :
    List Char × List Char :=
  if text.lower item.1 ∈ sensitiveNames then (item.1, maskedValue.toList) else item

/-- `mask_url_query`. -/
def maskUrlQuery (url : String) (sensitiveParams : List String) : Except PyError String := do
  let parts ← urlsplit text url
  if parts.query = [] then return url
  let sensitiveNames := sensitiveParams.map fun name => text.lower name.toList
  let queryItems := parseQsl parts.query
  let maskedAny := queryItems.any fun item => text.lower item.1 ∈ sensitiveNames
  if maskedAny = false then return url
  let maskedItems := queryItems.map (maskQueryItem text sensitiveNames)
  return String.ofList { parts with query := urlencode ['*'] maskedItems }.unsplit

end Queries

/-- `EventType`. -/
inductive LogEventType where
  | step (type : EventType)
  | runStarted
  | runCompleted
  | stepDeselected
  | authSessionRegistered
  | authCallbackReceived
  | psuAuthorizationUrl
  | psuAuthorizationRedirectReceived
  deriving DecidableEq, Repr

section Payloads

variable (text : UrlText) (pyStr : Json → String)

/-- `str(header_value)`. -/
def strHeaderValue : Json → String
  | .str value => value
  | value => pyStr value

/-- `MASKED_VALUE if value is not None else None`. -/
def maskPresent : Json → Json
  | .null => .null
  | _ => .str maskedValue

/-- The last two cases of `_mask_payload`. -/
def maskPlainEntry (entry : String × Json) : Json :=
  if text.lowered entry.1 ∈ sensitiveJsonKeys then .str maskedValue
  else maskJsonValue text.lowered entry.2

/-- The value of one entry of `_mask_payload`, outside developer mode. -/
def maskEventEntry (eventType : LogEventType) (entry : String × Json) : Except PyError Json :=
  match entry with
  | ("headers", .obj fields) =>
    let strHeaders := fields.map fun field => (field.1, strHeaderValue pyStr field.2)
    .ok (.obj (maskHeaders text.lowered strHeaders))
  | (key, value) =>
    if eventType = .psuAuthorizationUrl then
      match key, value with
      | "url", .str url => do
        let masked ← maskUrlQuery text url sensitiveJsonKeys
        return .str masked
      | "client_id", value => .ok (maskPresent value)
      | "request_object", value => .ok (maskPresent value)
      | key, value => .ok (maskPlainEntry text (key, value))
    else .ok (maskPlainEntry text (key, value))

/-- `_mask_payload`. In developer mode the payload is copied. -/
def maskEventPayload (developerMode : Bool) (eventType : LogEventType) (payload : JsonObject) :
    Except PyError JsonObject :=
  if developerMode = true then .ok payload
  else payload.mapM fun entry => do
    let masked ← maskEventEntry text pyStr eventType entry
    return (entry.1, masked)

end Payloads

end Conformance
