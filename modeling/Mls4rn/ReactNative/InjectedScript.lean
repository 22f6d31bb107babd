import Mls4rn.Lib.EcmaScript
import Mls4rn.ReactNative.RequestBridge

/-!
# Requests as injected script

The transport of `MlsProvider` delivers a request by running a script in the
page: a call of `window.__mls4rn_recv` whose argument is the request's JSON,
quoted once more by `JSON.stringify`.  User text is thus embedded in source
text under two layers of quoting.

Whatever the request holds, the script is that one call and the expression
`true`, and the string the page receives is the JSON the bridge wrote.  The
source text has no unpaired surrogate, so it also survives a conversion to
UTF-8 on its way to the page.
-/

namespace Mls4rn.ReactNative.InjectedScript

open Mls4rn.Lib
open Mls4rn.Lib.EcmaScript
open Mls4rn.Lib.NumberText
open Mls4rn.Lib.Utf16
open Mls4rn.ReactNative.RequestBridge

/-! ## The transport -/

/-- The script that `send` injects. -/
def send (json : CodeUnits) : CodeUnits :=
  literal "window.__mls4rn_recv(" ++ JsonString.quote json ++
    literal "); true;"

/-- A call of `window.__mls4rn_recv` with one string, and `true`. -/
def delivery (json : CodeUnits) : List Statement :=
  [.expression
      (.call (.member (.identifier (literal "window"))
          (literal "__mls4rn_recv"))
        [.string json]),
    .expression (.boolean true)]

/-! ## The script is read as one call -/

/-- The tokens of the script. -/
def sendTokens (json : CodeUnits) : List Token :=
  [.name (literal "window"), .punctuator .dot,
    .name (literal "__mls4rn_recv"), .punctuator .openParen, .string json,
    .punctuator .closeParen, .punctuator .semicolon,
    .name (literal "true"), .punctuator .semicolon]

theorem tokens_send (json : CodeUnits) (fuel : Nat) :
    tokens (fuel + 11) (send json) = some (sendTokens json) := by
  have window :
      send json =
        0x77 :: (literal "indow" ++ 0x2E :: (0x5F ::
          (literal "_mls4rn_recv" ++ 0x28 :: (JsonString.quote json ++
            (0x29 :: 0x3B :: 0x20 :: 0x74 ::
              (literal "rue" ++ 0x3B :: [])))))) := by
    simp [send, literal]
  rw [window, tokens_name _ (by decide) (by decide) (by decide) (by decide),
    tokens_punctuator _ _ rfl,
    tokens_name _ (by decide) (by decide) (by decide) (by decide),
    tokens_punctuator _ _ rfl, tokens_quote, tokens_punctuator _ _ rfl,
    tokens_punctuator _ _ rfl, tokens_space,
    tokens_name _ (by decide) (by decide) (by decide) (by decide),
    tokens_punctuator _ _ rfl]
  rfl

theorem parseStatements_sendTokens (json : CodeUnits) :
    parseStatements 10 (sendTokens json) = some (delivery json) := by
  rfl

theorem parseScript_send (json : CodeUnits) :
    parseScript (send json) = some (delivery json) := by
  have enough : ∃ fuel, (send json).length + 1 = fuel + 11 := by
    refine ⟨(send json).length - 10, ?_⟩
    have long : 10 ≤ (send json).length := by
      simp only [send, List.length_append]
      have fixed : (literal "window.__mls4rn_recv(").length = 21 := by decide
      omega
    omega
  rcases enough with ⟨fuel, length⟩
  rw [parseScript, length, tokens_send]
  exact parseStatements_sendTokens json

theorem isWellFormed_send (json : CodeUnits) :
    isWellFormed (send json) = true := by
  have opening :
      (literal "window.__mls4rn_recv(" ++ [JsonString.quoteMark]).any
        isSurrogate = false := by
    decide
  have split :
      send json =
        (literal "window.__mls4rn_recv(" ++ [JsonString.quoteMark]) ++
          (JsonString.quoteBody json ++
            (JsonString.quoteMark :: literal "); true;")) := by
    simp [send, JsonString.quote]
  rw [split, isWellFormed_append_of_plain,
    JsonString.isWellFormed_quoteBody_append]
  · decide
  · intro unit member
    exact Bool.eq_false_iff.mpr (List.any_eq_false.mp opening unit member)

/-! ## Requests -/

variable {Number : Type} [DecidableEq Number]

/--
A request is injected as one call with one string literal and the expression
`true`, and the literal's value is read as the request.
-/
theorem requests_arrive_intact
    (format : NumberFormat Number) (bridge : Bridge Number)
    (promise : Nat) (method : CodeUnits) (args : Json Number) :
    let id := format.ofNat bridge.nextId
    let json := (request format bridge promise method args none).2.1
    parseScript (send json) = some (delivery json) ∧
      isWellFormed (send json) = true ∧
        Json.parse format json =
            some (requestJson id method (Json.reread format args)) ∧
          (Json.Serializable format args →
            Json.parse format json = some (requestJson id method args)) := by
  have read :
      Json.parse format (request format bridge promise method args none).2.1 =
        some (requestJson (format.ofNat bridge.nextId) method
          (Json.reread format args)) := by
    rw [request, Json.parse_stringify, reread_requestJson]
  refine ⟨parseScript_send _, isWellFormed_send _, read, ?_⟩
  intro serializable
  rw [read, Json.reread_of_serializable serializable]

/-- A quotation mark, a backslash, line breaks and an unpaired surrogate. -/
def hostileText : CodeUnits :=
  [0x22, 0x5C, 0x0A, 0x0D, 0x2028, 0x2029, 0xD800] ++
    literal "\"); true; </script>"

/-- Arguments with such a text as a value and as a name. -/
def hostileArgs : Json Decimal :=
  .object [(literal "text", .string hostileText), (hostileText, .null)]

theorem requests_arrive_intact_hostile :
    let json :=
      (request decimalFormat .new 0 (literal "createMessage") hostileArgs
        none).2.1
    parseScript (send json) = some (delivery json) ∧
      Json.parse decimalFormat json =
        some (requestJson (.ofInt 1) (literal "createMessage") hostileArgs) := by
  have serializable : Json.Serializable decimalFormat hostileArgs := by
    simp only [hostileArgs, Json.Serializable, Json.SerializableMembers,
      and_true]
    decide
  have arrives :=
    requests_arrive_intact decimalFormat .new 0 (literal "createMessage")
      hostileArgs
  exact ⟨arrives.1, arrives.2.2.2 serializable⟩

end Mls4rn.ReactNative.InjectedScript
