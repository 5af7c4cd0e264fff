import GameGateway.Container.Inspection
import GameGateway.Decimal.Parse
import GameGateway.Http.Response

/-!
# The engine that runs the containers

The **engine** answers requests in HTTP. An inspection of a container is one request and its
response, after which the connection ends.
-/

namespace GameGateway.Container

open Wire (Byte)
open Http (Response Framing asciiBytes lineBreak)

/-- Where an **engine** takes requests. -/
structure Engine where
  host : String
  port : UInt16
  deriving DecidableEq, Repr

namespace Engine

/-- The port of an engine that tells none. -/
def defaultPort : UInt16 := 2375

/-- The engine in a text such as `tcp://127.0.0.1:2375`. -/
def ofText? (text : String) : Option Engine := do
  let address ← ["tcp://", "http://"].findSome? fun scheme =>
    if scheme.toList.isPrefixOf text.toList then some (text.toList.drop scheme.length) else none
  let address := address.takeWhile (· ≠ '/')
  let host := address.takeWhile (· ≠ ':')
  match address.drop host.length with
  | [] => return ⟨String.ofList host, defaultPort⟩
  | _ :: digits =>
    let port ← (Decimal.parseBelow UInt16.size (String.ofList digits)).toOption
    return ⟨String.ofList host, UInt16.ofNat port⟩

/-- A byte that stands for itself in a path. -/
def isPlain (b : Byte) : Bool :=
  let c := Char.ofNat b.toNat
  c.isAlphanum || c = '-' || c = '_' || c = '.' || c = '~'

/-- The bytes of a name as one step of a path. -/
def pathStep (name : String) : List Byte :=
  (Wire.Handshake.textBytes name).flatMap fun b =>
    if isPlain b then [b]
    else asciiBytes ("%" ++ (String.ofList (Wire.hexDigits b.toNat)).toUpper)

/-- The request for an inspection of a container. -/
def request (e : Engine) (container : String) : List Byte :=
  asciiBytes "GET /containers/" ++ pathStep container ++ asciiBytes "/json HTTP/1.1" ++ lineBreak ++
    asciiBytes s!"host: {e.host}" ++ lineBreak ++ asciiBytes "connection: close" ++ lineBreak ++
    lineBreak

end Engine

/-- The answer in the bytes of a connection to an engine, if it is complete. -/
def Answer.ofBytes? (bytes : List Byte) : Option Answer := do
  let (.complete response rest) := Response.scanFinal bytes | none
  let framing ← Framing.ofResponse? false response.fields
  let payload ←
    match (Http.Body.Reader.start framing).feed rest with
    | .done payload _ => some payload
    | .more reader payload => if reader.mayEnd then some payload else none
    | .malformed => none
  return { status := response.status, body := ← Http.Field.utf8? payload }

end GameGateway.Container
