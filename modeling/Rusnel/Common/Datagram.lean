import Rusnel.Common.Tunnel

/-!
# Datagrams on a stream

A UDP datagram travels as a `u16` little-endian length followed by its bytes.
A data-plane stream of a UDP conn is one {lit}`OpenConn` frame followed by
datagrams, so two prefix formats share one stream.

Main results:

- Theorem {lit}`readDatagram_delimits`: a written datagram is delimited.
- Theorem {lit}`datagram_stream_round_trip`: the receiver of a UDP stream
  obtains the opener and exactly the datagrams written, and on a cut stream the
  first of them and an error.
-/

namespace Rusnel

open ByteStream

/-- A UDP payload. -/
abbrev Datagram := List UInt8

/-- Largest UDP payload accepted on either side, and the receive buffer size. -/
def maxDatagram : Nat := 65535

/-- Frame one datagram onto a stream, refusing a payload whose length does not
fit a `u16` before anything is written. -/
def writeDatagram (send : List UInt8) (payload : Datagram) :
    List UInt8 × Except String Unit :=
  if payload.length < 2 ^ 16 then
    (send ++ toLeBytes 2 payload.length ++ payload, .ok ())
  else
    (send, .error ("UDP datagram of " ++ toString payload.length ++ " bytes exceeds 65535"))

/-- The message for each way a datagram can fail to arrive. -/
def datagramError (bufLen : Nat) : PrefixedError → String
  | .lengthCut got => finishedEarly got
  | .overCap len =>
      "datagram length " ++ toString len ++ " exceeds local buffer " ++ toString bufLen
  | .bodyCut got => finishedEarly got

/-- Read one datagram into a buffer of the given size. -/
def readDatagram (bufLen : Nat) (recv : List UInt8) :
    Except String (Datagram × List UInt8) :=
  match readPrefixed 2 bufLen recv with
  | .error e => .error (datagramError bufLen e)
  | .ok (payload, rest) => .ok (payload, rest)

/-- The bytes one datagram occupies on the stream. -/
def datagramBytes (payload : Datagram) : List UInt8 :=
  toLeBytes 2 payload.length ++ payload

theorem datagramBytes_ne_nil (payload : Datagram) : datagramBytes payload ≠ [] := by
  simp [datagramBytes, toLeBytes]

variable {payload : Datagram}

theorem writeDatagram_ok (hlen : payload.length ≤ maxDatagram) (send : List UInt8) :
    writeDatagram send payload = (send ++ datagramBytes payload, .ok ()) := by
  have hlt : payload.length < 2 ^ 16 := Nat.lt_succ_of_le hlen
  simp only [writeDatagram, if_pos hlt, datagramBytes, List.append_assoc]

/-- A write that succeeds appends the datagram's bytes. -/
theorem writeDatagram_eq_ok {send wire : List UInt8}
    (h : writeDatagram send payload = (wire, .ok ())) : wire = send ++ datagramBytes payload := by
  unfold writeDatagram at h
  split_ifs at h
  · cases h
    rw [datagramBytes, List.append_assoc]
  · cases h

/-- A payload past the limit is refused and the stream is left as it was. -/
theorem writeDatagram_refuses (hlen : maxDatagram < payload.length) (send : List UInt8) :
    writeDatagram send payload = (send,
      .error ("UDP datagram of " ++ toString payload.length ++ " bytes exceeds 65535")) := by
  have hnot : ¬payload.length < 2 ^ 16 := Nat.not_lt.mpr (Nat.succ_le_of_lt hlen)
  simp only [writeDatagram, if_neg hnot]

/-- A datagram within the limit is delimited. -/
theorem readDatagram_delimits (hlen : payload.length ≤ maxDatagram) :
    Delimits (readDatagram maxDatagram) (datagramBytes payload) payload where
  reads rest := by
    have hlt : payload.length < 256 ^ 2 := Nat.lt_succ_of_le hlen
    simp only [readDatagram, datagramBytes, (readPrefixed_delimits hlt hlen).reads rest]
  cut part hpart hne := by
    have hlt : payload.length < 256 ^ 2 := Nat.lt_succ_of_le hlen
    obtain ⟨e, he⟩ := (readPrefixed_delimits hlt hlen).cut part hpart hne
    exact ⟨datagramError maxDatagram e, by simp only [readDatagram, he]⟩

/-- A stream that ends between two datagrams is an error of the next read. -/
theorem readDatagram_nil (bufLen : Nat) :
    readDatagram bufLen [] = .error (finishedEarly 0) :=
  rfl

/-! ## Whole streams -/

/-- Write datagrams one after another, stopping at the first refused one. -/
def writeDatagrams : List UInt8 → List Datagram → List UInt8 × Except String Unit
  | send, [] => (send, .ok ())
  | send, payload :: payloads =>
      match writeDatagram send payload with
      | (send, .ok ()) => writeDatagrams send payloads
      | (send, .error e) => (send, .error e)

/-- Open a conn and write its datagrams onto a fresh stream. -/
def writeConn (codec : SerdeHelper OpenConn) (opener : OpenConn)
    (payloads : List Datagram) : List UInt8 × Except String Unit :=
  match writeFramed codec [] opener with
  | (send, .ok ()) => writeDatagrams send payloads
  | (send, .error e) => (send, .error e)

/-- The datagrams a receive loop takes off a stream, and the error that ends it. -/
def readDatagrams (recv : List UInt8) : List Datagram × Option String :=
  drain (readDatagram maxDatagram) (recv.length + 1) recv

/-- Read the opener, then datagrams until the first error. -/
def readConn (codec : SerdeHelper OpenConn) (recv : List UInt8) :
    Option OpenConn × List Datagram × Option String :=
  match readFramed codec recv with
  | .error e => (none, [], some e)
  | .ok (opener, rest) => (some opener, readDatagrams rest)

variable {payloads : List Datagram}

theorem writeDatagrams_ok (hlen : ∀ p ∈ payloads, p.length ≤ maxDatagram) (send : List UInt8) :
    writeDatagrams send payloads = (send ++ payloads.flatMap datagramBytes, .ok ()) := by
  induction payloads generalizing send with
  | nil => simp [writeDatagrams]
  | cons p payloads ih =>
      have hp := writeDatagram_ok (hlen p List.mem_cons_self) send
      have hrest := ih (fun q hq => hlen q (List.mem_cons_of_mem p hq))
        (send ++ datagramBytes p)
      simp only [writeDatagrams, hp, hrest, List.flatMap_cons, List.append_assoc]

/-- The receive loop obtains exactly the datagrams written. -/
theorem readDatagrams_flatMap (hlen : ∀ p ∈ payloads, p.length ≤ maxDatagram) :
    readDatagrams (payloads.flatMap datagramBytes) = (payloads, some (finishedEarly 0)) :=
  drain_flatMap
    (fun p hp => ⟨readDatagram_delimits (hlen p hp), datagramBytes_ne_nil p⟩)
    (readDatagram_nil maxDatagram) (Nat.lt_succ_self _)

/-- A datagram of which only a part was written does not count. -/
theorem readDatagrams_flatMap_append (hlen : ∀ p ∈ payloads, p.length ≤ maxDatagram)
    {last : Datagram} (hlast : last.length ≤ maxDatagram) {part : List UInt8}
    (hpart : part <+: datagramBytes last) (hne : part ≠ datagramBytes last) :
    ∃ e, readDatagrams (payloads.flatMap datagramBytes ++ part) = (payloads, some e) := by
  obtain ⟨e, he⟩ := (readDatagram_delimits hlast).cut part hpart hne
  have hfuel : (payloads.flatMap datagramBytes).length <
      (payloads.flatMap datagramBytes ++ part).length + 1 := by
    rw [List.length_append]
    omega
  exact ⟨e, drain_flatMap_append
    (fun p hp => ⟨readDatagram_delimits (hlen p hp), datagramBytes_ne_nil p⟩) he hfuel⟩

/-- On a cut stream the receive loop obtains the first datagrams and an error. -/
theorem readDatagrams_cut (hlen : ∀ p ∈ payloads, p.length ≤ maxDatagram) {part : List UInt8}
    (hpart : part <+: payloads.flatMap datagramBytes) :
    ∃ got e, readDatagrams part = (got, some e) ∧ got <+: payloads :=
  drain_cut
    (fun p hp => ⟨readDatagram_delimits (hlen p hp), datagramBytes_ne_nil p⟩)
    (readDatagram_nil maxDatagram) hpart (Nat.lt_succ_self _)

/-- A UDP stream round-trips: with an opener of at most 65536 body bytes and
datagrams of at most 65535 bytes, the receiver obtains the opener and exactly
the datagrams; cut anywhere, it obtains nothing that was not sent, and an
error.  A longer payload is refused with the stream unchanged. -/
theorem datagram_stream_round_trip (codec : SerdeHelper OpenConn) (opener : OpenConn)
    (hinv : codec.Inverts opener) {body : List UInt8}
    (hbody : codec.toBytes opener = .ok body) (hcap : body.length ≤ 65536)
    (payloads : List Datagram) (hlen : ∀ p ∈ payloads, p.length ≤ 65535) :
    (∃ wire, writeConn codec opener payloads = (wire, .ok ()) ∧
      readConn codec wire = (some opener, payloads, some (finishedEarly 0)) ∧
      ∀ part, part <+: wire →
        (∃ e, readConn codec part = (none, [], some e)) ∨
          ∃ got e, readConn codec part = (some opener, got, some e) ∧ got <+: payloads) ∧
    ∀ (send : List UInt8) (payload : Datagram), 65535 < payload.length →
      ∃ e, writeDatagram send payload = (send, .error e) := by
  have hframe := readFramed_delimits hbody hinv hcap
  have hfits : body.length < 2 ^ 32 := hcap.trans_lt (by decide)
  let frame := toLeBytes 4 body.length ++ body
  refine ⟨⟨frame ++ payloads.flatMap datagramBytes, ?_, ?_, ?_⟩, ?_⟩
  · simp only [writeConn, writeFramed_ok hbody hfits, List.nil_append, frame]
    exact writeDatagrams_ok hlen _
  · simp only [readConn, frame, hframe.reads, readDatagrams_flatMap hlen]
  · intro part hpart
    rcases List.prefix_or_prefix_of_prefix hpart (List.prefix_append _ _) with hin | hout
    · by_cases heq : part = frame
      · -- The cut falls between the opener and the first datagram.
        right
        refine ⟨[], finishedEarly 0, ?_, List.nil_prefix⟩
        have hread := hframe.reads []
        rw [List.append_nil] at hread
        subst heq
        simp only [readConn, frame, hread]
        rfl
      · left
        obtain ⟨e, he⟩ := hframe.cut part hin heq
        exact ⟨e, by simp only [readConn, he]⟩
    · right
      obtain ⟨rest, rfl⟩ := hout
      have hrest : rest <+: payloads.flatMap datagramBytes :=
        (List.prefix_append_right_inj frame).mp hpart
      obtain ⟨got, e, hgot, hprefix⟩ := readDatagrams_cut hlen hrest
      exact ⟨got, e, by simp only [readConn, frame, hframe.reads, hgot], hprefix⟩
  · intro send payload hlong
    exact ⟨_, writeDatagram_refuses hlong send⟩

/-- The MessagePack form of the opener of tunnel 1 without a dynamic target: an
array of the id and nil. -/
def openerOneCodec : SerdeHelper OpenConn where
  toBytes msg :=
    if msg = ⟨1, none⟩ then .ok [0x92, 0x01, 0xc0] else .error "unsupported"
  fromBytes body :=
    if body = [0x92, 0x01, 0xc0] then .ok ⟨1, none⟩ else .error "unsupported"

/-- The round trip at a concrete opener and two datagrams, one of them empty. -/
theorem datagram_stream_round_trip_one :
    (∃ wire, writeConn openerOneCodec ⟨1, none⟩ [[104, 105], []] = (wire, .ok ()) ∧
      readConn openerOneCodec wire =
        (some ⟨1, none⟩, [[104, 105], []], some (finishedEarly 0)) ∧
      ∀ part, part <+: wire →
        (∃ e, readConn openerOneCodec part = (none, [], some e)) ∨
          ∃ got e, readConn openerOneCodec part = (some ⟨1, none⟩, got, some e) ∧
            got <+: [[104, 105], []]) ∧
    ∀ (send : List UInt8) (payload : Datagram), 65535 < payload.length →
      ∃ e, writeDatagram send payload = (send, .error e) :=
  datagram_stream_round_trip openerOneCodec ⟨1, none⟩
    (by
      intro body hbody
      cases hbody
      rfl)
    (show openerOneCodec.toBytes ⟨1, none⟩ = .ok [0x92, 0x01, 0xc0] from rfl)
    (by decide) [[104, 105], []] (by decide)

end Rusnel
