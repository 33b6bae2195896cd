import Rusnel.Foundation.Codec
import Rusnel.Common.Tunnel

/-!
# The limits of control frames

The writer of a control frame refuses a body of more than `u32::MAX` bytes, its
reader one of more than {lit}`maxControlMsg`.  Between the two limits lie frames
that are sent and never accepted.  The body codec of the hello's reply is given
in full, so that such a frame can be exhibited.

Main results:

- Theorem {lit}`sessionHelloResponse_inverts`: the reply codec inverts every
  reply whose parts have lengths below `2 ^ 32`.
- Theorem {lit}`frame_read_back_iff`: what was written is read back, whatever
  follows, exactly for bodies within the reader's cap.
-/

namespace Rusnel

open ByteStream MessagePack

/-! ## The body of a hello's reply -/

/-- The body of a reply: a map from the variant's name to its content, which is
an array of one field for `Ok` and the text itself for `Failed`. -/
def SessionHelloResponse.toBytes : SessionHelloResponse → List UInt8
  | .ok tunnelIds =>
      0x81 :: (writeStr "Ok" ++ (Codec.record 1 Codec.u64.array).write tunnelIds)
  | .failed reason => 0x81 :: (writeStr "Failed" ++ writeStr reason)

/-- Decode the body of a reply. -/
def SessionHelloResponse.fromBytes (body : List UInt8) : Option SessionHelloResponse :=
  match body with
  | [] => none
  | marker :: rest =>
      if marker ≠ 0x81 then none
      else do
        let (variant, rest) ← readStr rest
        if variant = "Ok" then
          let (tunnelIds, _) ← (Codec.record 1 Codec.u64.array).read rest
          pure (.ok tunnelIds)
        else if variant = "Failed" then
          let (reason, _) ← readStr rest
          pure (.failed reason)
        else none

/-- The codec of the hello's reply. -/
def sessionHelloResponseCodec : SerdeHelper SessionHelloResponse where
  toBytes msg := .ok msg.toBytes
  fromBytes body :=
    match SessionHelloResponse.fromBytes body with
    | some msg => .ok msg
    | none => .error "invalid reply"

/-- Every length in the reply fits MessagePack's widest length. -/
def SessionHelloResponse.Encodable : SessionHelloResponse → Prop
  | .ok tunnelIds => tunnelIds.length < 2 ^ 32
  | .failed reason => (utf8 reason).length < 2 ^ 32

theorem SessionHelloResponse.fromBytes_toBytes {msg : SessionHelloResponse}
    (h : msg.Encodable) : fromBytes msg.toBytes = some msg := by
  cases msg with
  | ok tunnelIds =>
      have hname : (utf8 "Ok").length < 2 ^ 32 := by decide
      have hitems : ∀ tunnelId ∈ tunnelIds, Codec.u64.Conveys tunnelId (id tunnelId) :=
        fun tunnelId _ => Codec.u64_conveys tunnelId
      have hids := ((Codec.Conveys.array hitems h).record (by decide : 1 < 2 ^ 32)).read_write
      rw [List.map_id] at hids
      simp [toBytes, fromBytes, readStr_writeStr hname, hids]
  | failed reason =>
      have hname : (utf8 "Failed").length < 2 ^ 32 := by decide
      have hreason := readStr_writeStr h []
      rw [List.append_nil] at hreason
      simp [toBytes, fromBytes, readStr_writeStr hname, hreason]

/-- A reply with a body that a frame can hold has short parts. -/
theorem SessionHelloResponse.encodable_of_length {msg : SessionHelloResponse}
    (h : msg.toBytes.length < 2 ^ 32) : msg.Encodable := by
  cases msg with
  | ok tunnelIds =>
      have hpos : ∀ id ∈ tunnelIds, 1 ≤ (Codec.u64.write id).length := by
        intro id _
        obtain ⟨marker, tail, hwrite, -⟩ := Header.write_eq_cons (uint_fits id)
        change 1 ≤ (uint.write id.toNat).length
        simp [hwrite]
      have hitems := Codec.length_flatMap_write_ge hpos
      simp only [toBytes, Codec.record, Codec.array, List.length_cons, List.length_append] at h
      change tunnelIds.length < 2 ^ 32
      omega
  | failed reason =>
      simp only [toBytes, writeStr, List.length_cons, List.length_append] at h
      change (utf8 reason).length < 2 ^ 32
      omega

/-- The codec inverts every encodable reply. -/
theorem sessionHelloResponse_inverts {msg : SessionHelloResponse} (h : msg.Encodable) :
    sessionHelloResponseCodec.Inverts msg := by
  intro body hbody
  cases hbody
  simp only [sessionHelloResponseCodec, SessionHelloResponse.fromBytes_toBytes h]

/-! ## Writer and reader -/

variable {T : Type} {codec : SerdeHelper T} {msg : T} {body : List UInt8}

/-- A successful write appended the length and the body. -/
theorem writeFramed_wire {send wire : List UInt8}
    (hwrite : writeFramed codec send msg = (send ++ wire, .ok ())) :
    ∃ body, codec.toBytes msg = .ok body ∧ body.length < 2 ^ 32 ∧
      wire = toLeBytes 4 body.length ++ body := by
  unfold writeFramed at hwrite
  split at hwrite
  · simp at hwrite
  · rename_i body hbody
    split_ifs at hwrite with hlen
    · simp only [Prod.mk.injEq, List.append_assoc, List.append_cancel_left_eq, and_true] at hwrite
      exact ⟨body, hbody, hlen, hwrite.symm⟩
    · simp at hwrite

/-- A frame above the cap is refused by its reader, whatever follows. -/
theorem readFramed_overCap (hlen : body.length < 2 ^ 32) (hcap : maxControlMsg < body.length)
    (rest : List UInt8) :
    readFramed codec (toLeBytes 4 body.length ++ body ++ rest)
      = .error (controlError (.overCap body.length)) := by
  have hbytes : body.length < 256 ^ 4 := hlen
  simp only [readFramed, readPrefixed_overCap hbytes hcap rest]

/-- What a successful write put on the stream is read back by the peer, in front
of anything, exactly if the body is within the reader's cap. -/
theorem frame_read_back_iff (hbody : codec.toBytes msg = .ok body)
    (hinv : codec.Inverts msg) {send wire : List UInt8}
    (hwrite : writeFramed codec send msg = (send ++ wire, .ok ())) :
    (∀ rest, readFramed codec (wire ++ rest) = .ok (msg, rest)) ↔
      body.length ≤ maxControlMsg := by
  obtain ⟨written, hwritten, hlen, rfl⟩ := writeFramed_wire hwrite
  cases hbody.symm.trans hwritten
  constructor
  · intro hread
    by_contra hcap
    have hrefused : readFramed codec (toLeBytes 4 body.length ++ body ++ []) = _ :=
      readFramed_overCap hlen (Nat.not_le.mp hcap) []
    rw [hread []] at hrefused
    cases hrefused
  · intro hcap
    exact (readFramed_delimits hbody hinv hcap).reads

/-- A short refusal is within the cap. -/
theorem refusal_read_back :
    readFramed sessionHelloResponseCodec
      ((writeFramed sessionHelloResponseCodec [] (.failed "no")).1 ++ [1, 2])
      = .ok (.failed "no", [1, 2]) := by
  have hinv : sessionHelloResponseCodec.Inverts (.failed "no") :=
    sessionHelloResponse_inverts (by change (utf8 "no").length < 2 ^ 32; decide)
  have hwrite : writeFramed sessionHelloResponseCodec [] (.failed "no") =
      ([] ++ (writeFramed sessionHelloResponseCodec [] (.failed "no")).1, .ok ()) := rfl
  exact (frame_read_back_iff rfl hinv hwrite).mpr (by decide) [1, 2]

/-- A refusal whose reason repeats one letter, as one that quotes a long host. -/
def longRefusal (n : Nat) : SessionHelloResponse :=
  .failed (String.ofList (List.replicate n 'a'))

theorem utf8_replicate (n : Nat) :
    (utf8 (String.ofList (List.replicate n 'a'))).length = n := by
  have hsize : 'a'.utf8Size = 1 := rfl
  rw [utf8_ofList, List.flatMap_replicate]
  simp [hsize]

/-- The size of a refusal's body when its reason needs a four-byte length. -/
theorem longRefusal_body {n : Nat} (hlow : 2 ^ 16 ≤ n) (hhigh : n < 2 ^ 32) :
    (longRefusal n).toBytes.length = n + 13 := by
  have hname : (writeStr "Failed").length = 7 := by decide
  have hlen : (strLen.write n).length = 5 := by
    have h1 : ¬n < 32 := by omega
    have h2 : ¬n < 256 := by omega
    have h3 : ¬n < 65536 := by omega
    have h4 : n < 4294967296 := hhigh
    simp [Header.write, strLen, h1, h2, h3, h4]
  have hreason : (writeStr (String.ofList (List.replicate n 'a'))).length = 5 + n := by
    rw [writeStr, List.length_append, utf8_replicate, hlen]
  simp only [longRefusal, SessionHelloResponse.toBytes, List.length_cons, List.length_append,
    hname, hreason]
  omega

/-- A refusal with a reason of 65536 bytes is written, and its reader rejects it
by its length. -/
theorem longRefusal_unread :
    sessionHelloResponseCodec.Inverts (longRefusal 65536) ∧
      ∃ wire, writeFramed sessionHelloResponseCodec [] (longRefusal 65536) = (wire, .ok ()) ∧
        ∀ rest, readFramed sessionHelloResponseCodec (wire ++ rest) =
          .error "control message length 65549 exceeds cap of 65536" := by
  have hbody := longRefusal_body (n := 65536) (by decide) (by decide)
  have hsmall : (longRefusal 65536).toBytes.length < 2 ^ 32 := by
    rw [hbody]
    decide
  have hlarge : maxControlMsg < (longRefusal 65536).toBytes.length := by
    rw [hbody]
    decide
  refine ⟨sessionHelloResponse_inverts ?_, _, writeFramed_ok rfl hsmall [], ?_⟩
  · simp only [longRefusal, SessionHelloResponse.Encodable, utf8_replicate]
    decide
  · intro rest
    rw [List.nil_append, readFramed_overCap hsmall hlarge, hbody]
    decide

end Rusnel
