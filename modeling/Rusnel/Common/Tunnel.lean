import Rusnel.Foundation.ByteStream
import Rusnel.Common.Remote

/-!
# The control plane

Control messages travel as a `u32` little-endian length followed by a
MessagePack body.  The body codec is a parameter: only its two operations are
used, and what a result needs of them is named where it is needed.

Main results:

- Theorem {lit}`writeFramed_ok`: what a successful write appends to the stream.
- Theorem {lit}`readFramed_delimits`: a frame within the cap is delimited.
-/

namespace Rusnel

open ByteStream

/-- The body codec of one message type. -/
structure SerdeHelper (T : Type) where
  toBytes : T → Except String (List UInt8)
  fromBytes : List UInt8 → Except String T

/-- Decoding the bytes of `msg` gives `msg` back. -/
def SerdeHelper.Inverts {T : Type} (codec : SerdeHelper T) (msg : T) : Prop :=
  ∀ body, codec.toBytes msg = .ok body → codec.fromBytes body = .ok msg

/-- Hard cap on a single control message body. -/
def maxControlMsg : Nat := 64 * 1024

variable {T : Type}

/-- Append one framed message to the bytes written so far. -/
def writeFramed (codec : SerdeHelper T) (send : List UInt8) (msg : T) :
    List UInt8 × Except String Unit :=
  match codec.toBytes msg with
  | .error e => (send, .error e)
  | .ok body =>
      if body.length < 2 ^ 32 then
        (send ++ toLeBytes 4 body.length ++ body, .ok ())
      else (send, .error "control message exceeds u32::MAX")

/-- How a stream reports that it ended inside a read. -/
def finishedEarly (got : Nat) : String :=
  "stream finished early (" ++ toString got ++ " bytes read)"

/-- The message for each way a frame can fail to arrive. -/
def controlError : PrefixedError → String
  | .lengthCut got => "failed to read control message length: " ++ finishedEarly got
  | .overCap len =>
      "control message length " ++ toString len ++ " exceeds cap of " ++
        toString maxControlMsg
  | .bodyCut got => "failed to read control message body: " ++ finishedEarly got

/-- Read one framed message off the front of the stream. -/
def readFramed (codec : SerdeHelper T) (recv : List UInt8) :
    Except String (T × List UInt8) :=
  match readPrefixed 4 maxControlMsg recv with
  | .error e => .error (controlError e)
  | .ok (body, rest) =>
      match codec.fromBytes body with
      | .error e => .error e
      | .ok msg => .ok (msg, rest)

/-- A message whose body fits a `u32` is appended behind its length. -/
theorem writeFramed_ok {codec : SerdeHelper T} {msg : T} {body : List UInt8}
    (hbody : codec.toBytes msg = .ok body) (hlen : body.length < 2 ^ 32)
    (send : List UInt8) :
    writeFramed codec send msg = (send ++ toLeBytes 4 body.length ++ body, .ok ()) := by
  simp only [writeFramed, hbody, if_pos hlen]

/-- A frame within the cap, of a message its codec inverts, is delimited. -/
theorem readFramed_delimits {codec : SerdeHelper T} {msg : T} {body : List UInt8}
    (hbody : codec.toBytes msg = .ok body) (hinv : codec.Inverts msg)
    (hcap : body.length ≤ maxControlMsg) :
    Delimits (readFramed codec) (toLeBytes 4 body.length ++ body) msg where
  reads rest := by
    have hbytes : body.length < 256 ^ 4 :=
      hcap.trans_lt (by decide)
    simp only [readFramed, (readPrefixed_delimits hbytes hcap).reads rest, hinv body hbody]
  cut part hpart hne := by
    have hbytes : body.length < 256 ^ 4 :=
      hcap.trans_lt (by decide)
    obtain ⟨e, he⟩ := (readPrefixed_delimits hbytes hcap).cut part hpart hne
    exact ⟨controlError e, by simp only [readFramed, he]⟩

/-! ## Hello and conn opener -/

/-- The client's reading of the server's verdict on its hello. -/
def clientSendSessionHello (hello : SessionHello) :
    SessionHelloResponse → Except String (List UInt64)
  | .ok tunnelIds =>
      if tunnelIds.length ≠ hello.remotes.length then
        .error ("server returned " ++ toString tunnelIds.length ++ " tunnel ids for " ++
          toString hello.remotes.length ++ " remotes")
      else .ok tunnelIds
  | .failed reason => .error ("server rejected session: " ++ reason)

/-- The initiator's reading of the reply to its conn opener. -/
def sendOpenConn : OpenConnResponse → Except String Unit
  | .ok => .ok ()
  | .failed reason => .error ("conn open rejected: " ++ reason)

end Rusnel
