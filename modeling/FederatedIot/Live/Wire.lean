import FederatedIot.Foundation.Doubles
import FederatedIot.Foundation.JsonValue
import FederatedIot.Foundation.Splitting
import FederatedIot.Foundation.Utf8
import FederatedIot.Queue.Schema

namespace FederatedIot
namespace Live

open Foundation Foundation.JsonText

/-!
# The event stream as bytes

`writeSSE` writes a frame as UTF-8 text with one field a line, and
`subscribeSimulationEvents` reads the bytes in the chunks that the network
makes of them.  The reader decodes a chunk, cuts its buffer at blank lines and
keeps what follows the last one.  The characters of the texts are Unicode
characters on both sides.
-/

/-! ## Writing -/

/-- What `writeSSE` is given.  The members of an object of the payload stand in
the order in which the encoder writes them. -/
structure SseMessage where
  eventId : Int
  event : List Char
  payload : Document Double

/-- `json.Marshal`. -/
def marshal (payload : Document Double) : List Char :=
  print (payload.map Double.format)

/-- The verb `%d`. -/
def formatInt (value : Int) : List Char :=
  if value < 0 then '-' :: Nat.toDigits 10 value.natAbs else Nat.toDigits 10 value.natAbs

/-- The four lines of a frame. -/
def SseMessage.lines (message : SseMessage) : List (List Char) :=
  ["id: ".toList ++ formatInt message.eventId, "event: ".toList ++ message.event,
    "retry: 3000".toList, "data: ".toList ++ marshal message.payload]

/-- Lines with a line feed between them. -/
def joinLines : List (List Char) -> List Char
  | [] => []
  | [last] => last
  | line :: rest => line ++ '\n' :: joinLines rest

def SseMessage.frame (message : SseMessage) : List Char :=
  joinLines message.lines ++ ['\n', '\n']

def writeSSE (message : SseMessage) : List UInt8 :=
  Utf8.encode message.frame

/-! ## Reading -/

/-- The separator `/\r?\n/`. -/
def lineBreak : List Char -> Nat
  | '\r' :: '\n' :: _ => 2
  | '\n' :: _ => 1
  | _ => 0

/-- The separator `/\r?\n\r?\n/`. -/
def frameBreak : List Char -> Nat
  | '\r' :: '\n' :: '\r' :: '\n' :: _ => 4
  | '\r' :: '\n' :: '\n' :: _ => 3
  | '\n' :: '\r' :: '\n' :: _ => 3
  | '\n' :: '\n' :: _ => 2
  | _ => 0

/-- The characters that `trimStart` removes. -/
def isWhiteSpace (char : Char) : Bool :=
  (9 ≤ char.toNat && char.toNat ≤ 13) || char.toNat = 0x20 || char.toNat = 0xA0 ||
    char.toNat = 0x1680 || (0x2000 ≤ char.toNat && char.toNat ≤ 0x200A) || char.toNat = 0x2028 ||
    char.toNat = 0x2029 || char.toNat = 0x202F || char.toNat = 0x205F || char.toNat = 0x3000 ||
    char.toNat = 0xFEFF

/-- The name and the value of a line, which has a colon. -/
def lineField (line : List Char) : List Char × List Char :=
  (line.takeWhile (· != ':'), ((line.dropWhile (· != ':')).drop 1).dropWhile isWhiteSpace)

/-- The entries that `Object.fromEntries` gets. -/
def frameFields (frame : List Char) : List (List Char × List Char) :=
  let cut := Splitting.cut lineBreak frame
  ((cut.1 ++ [cut.2]).filter fun line => line.contains ':').map lineField

/-- A property of the object of the entries: the last entry of its name wins,
and a name without an entry is undefined. -/
def property (name : List Char) (entries : List (List Char × List Char)) : Option (List Char) :=
  (entries.reverse.find? fun entry => entry.1 = name).map Prod.snd

/-- A property that is defined and not empty. -/
def truthyProperty (name : List Char) (entries : List (List Char × List Char)) : Option (List Char) :=
  (property name entries).filter fun text => !text.isEmpty

/-- `Number(text)` of a numeral.  Texts of other forms are left open. -/
def numberOf (text : List Char) : Option Reading :=
  if valid : isNumeral text = true then some (read ⟨text, valid⟩) else none

/-- `JSON.parse`: an exception, or the value of the text. -/
def jsonParse (text : List Char) : Option (Document Reading) :=
  (parse text).map fun document => (document.map read).collapse

/-- What `onEvent` is called with. -/
structure Received where
  id : Option Reading
  type : List Char
  data : Document Reading

/-- The variables of the subscription, the calls of `onEvent`, and whether an
exception has ended the loop. -/
structure StreamReader where
  decoder : Utf8.Decoder
  started : Bool
  buffer : List Char
  eventId : Option Reading
  received : List Received
  failed : Bool

namespace StreamReader

def start (lastEventId : Option Reading) : StreamReader where
  decoder := .fresh
  started := false
  buffer := []
  eventId := lastEventId
  received := []
  failed := false

/-- One turn of the loop over the frames. -/
def readFrame (reader : StreamReader) (frame : List Char) : StreamReader :=
  if reader.failed then reader
  else
    let fields := frameFields frame
    let eventId :=
      match truthyProperty "id".toList fields with
      | some text => numberOf text
      | none => reader.eventId
    match truthyProperty "event".toList fields, truthyProperty "data".toList fields with
    | some type, some data =>
        match jsonParse data with
        | some value =>
            { reader with
              eventId := eventId
              received := reader.received ++ [{ id := eventId, type := type, data := value }] }
        | none => { reader with eventId := eventId, failed := true }
    | _, _ => { reader with eventId := eventId }

/-- The text of a chunk.  The decoder drops a byte order mark at the beginning
of the stream. -/
def decodeText (reader : StreamReader) (chunk : List UInt8) : List Char :=
  let text := (Utf8.decode reader.decoder chunk).2
  if reader.started then text
  else if text.head? = some (Char.ofNat 0xFEFF) then text.tail else text

/-- One turn of the reading loop. -/
def readChunk (reader : StreamReader) (chunk : List UInt8) : StreamReader :=
  if reader.failed then reader
  else
    let cut := Splitting.cut frameBreak (reader.buffer ++ reader.decodeText chunk)
    cut.1.foldl readFrame
      { reader with
        decoder := (Utf8.decode reader.decoder chunk).1
        started := reader.started || !(Utf8.decode reader.decoder chunk).2.isEmpty
        buffer := cut.2 }

/-- What the loop has done after the chunks. -/
def run (reader : StreamReader) (chunks : List (List UInt8)) : StreamReader :=
  chunks.foldl readChunk reader

end StreamReader

end Live
end FederatedIot
