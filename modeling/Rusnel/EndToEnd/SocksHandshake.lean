import Rusnel.Common.SocksHeader
import Rusnel.EndToEnd.SocksConnect

/-!
# The SOCKS5 handshake byte by byte

{lit}`socksHandshake` decodes what a SOCKS client sends.  Here it is modelled
with what the code holds while it runs: the buffer its reads share, the reads
themselves, and the position in the connection at which the relay goes on.  The
same address format is decoded a second time, from a datagram, by the relay's
header parser.

Main results:

- Theorem {lit}`Buffered.socksHandshake_refines`: the outcome is that of
  {lit}`socksHandshake`.
- Theorem {lit}`socks_decoders_agree`: the handshake takes exactly the greeting
  and the request, and names the target the header parser names; both fail on a
  part of an address and on another address type.
-/

namespace Rusnel
namespace EndToEnd

open Net Text Tcp

namespace Buffered

/-- Read the address of a request behind its type. -/
def readSocksAddr (atyp : UInt8) : ConnTask HostPort :=
  if atyp = 0x01 then do
    let addr ← readExact [0, 0, 0, 0] 4
    let port ← readExact [0, 0] 2
    let ip : Ipv4Addr := ⟨addr.getD 0 0, addr.getD 1 0, addr.getD 2 0, addr.getD 3 0⟩
    pure ⟨String.ofList ip.display, fromBeBytes (port.getD 0 0) (port.getD 1 0)⟩
  else if atyp = 0x03 then do
    let len ← readExact [0] 1
    let domain ← readExact (List.replicate (len.getD 0 0).toNat 0) (len.getD 0 0).toNat
    let port ← readExact [0, 0] 2
    pure ⟨String.ofList (fromUtf8Lossy none domain),
      fromBeBytes (port.getD 0 0) (port.getD 1 0)⟩
  else if atyp = 0x04 then do
    let addr ← readExact (List.replicate 16 0) 16
    let port ← readExact [0, 0] 2
    pure ⟨String.ofList (Ipv6Addr.fromOctets addr).display,
      fromBeBytes (port.getD 0 0) (port.getD 1 0)⟩
  else do
    writeAll [0x05, 0x08]
    fail ("Unsupported address type: " ++ toString atyp)

/-- Which command a request holds. -/
def socksCommand (cmd : UInt8) (target : HostPort) : ConnTask SocksRequest :=
  if cmd = 0x01 then pure (.connect target)
  else if cmd = 0x03 then pure .udpAssociate
  else do
    writeAll [0x05, 0x07]
    fail ("Unsupported SOCKS command: " ++ toString cmd)

/-- The request, read into the buffer that held the greeting. -/
def readRequest (buf : List UInt8) : ConnTask SocksRequest := do
  let buf ← readExact buf 4
  let cmd ← lift (index buf 1)
  let atyp ← lift (index buf 3)
  let target ← readSocksAddr atyp
  socksCommand cmd target

/-- Decode what a SOCKS client sends. -/
def socksHandshake : ConnTask SocksRequest := do
  let buf ← readExact (List.replicate 256 0) 2
  let version ← lift (index buf 0)
  if version ≠ 0x05 then fail ("Unsupported SOCKS version: " ++ toString version)
  else do
    let methodsLen ← lift (index buf 1)
    let buf ← readExact buf methodsLen.toNat
    writeAll [0x05, 0x00]
    readRequest buf

/-! ## The same outcome -/

/-- A read into a buffer that is long enough, and what follows it. -/
theorem readExact_bind {α : Type} {buf : List UInt8} {n : Nat} (hn : n ≤ buf.length)
    (f : List UInt8 → ConnTask α) (c : TcpConn) :
    (readExact buf n >>= f).run c =
      match readTcp n c.input with
      | .ok (bytes, rest) => (f (bytes ++ buf.drop n)).run { c with input := rest }
      | .error e => (.error (.err e), { c with input := [] }) := by
  rw [readTcp, ByteStream.readExact]
  by_cases hshort : c.input.length < n
  · simp [bind, readExact, Nat.not_lt.mpr hn, hshort, Nat.not_le.mpr hshort, Except.mapError]
  · simp [bind, readExact, Nat.not_lt.mpr hn, hshort, Nat.not_lt.mp hshort, Except.mapError]

/-- The outcome of a task and what it has written are those of a decoder. -/
def Refines {α : Type} (run : Except Failure α × TcpConn) (written : List UInt8)
    (outcome : List UInt8 × Except String α) : Prop :=
  run.1 = outcome.2.mapError .err ∧ run.2.written = written ++ outcome.1

/-- A read that fills a buffer, and what follows it. -/
theorem refines_read {α : Type} {buf : List UInt8} {n : Nat} (hn : buf.length = n)
    {f : List UInt8 → ConnTask α} {g : List UInt8 × List UInt8 → Except String α} (c : TcpConn)
    (h : ∀ r, Refines ((f r.1).run { c with input := r.2 }) c.written ([], g r)) :
    Refines ((readExact buf n >>= f).run c) c.written ([], readTcp n c.input >>= g) := by
  rw [readExact_bind (Nat.le_of_eq hn.symm)]
  cases readTcp n c.input with
  | error e => exact ⟨rfl, (List.append_nil _).symm⟩
  | ok r =>
      rw [List.drop_eq_nil_of_le (Nat.le_of_eq hn)]
      simp only [List.append_nil]
      exact h r

theorem readSocksAddr_refines (atyp : UInt8) (c : TcpConn) :
    Refines ((readSocksAddr atyp).run c) c.written (EndToEnd.readSocksAddr atyp c.input) := by
  have hpure : ∀ (target : HostPort) (c : TcpConn),
      Refines ((pure target : ConnTask HostPort).run c) c.written ([], .ok target) :=
    fun target c => ⟨rfl, (List.append_nil _).symm⟩
  have hport : ∀ (g : UInt16 → HostPort) (c : TcpConn),
      Refines ((readExact [0, 0] 2 >>= fun port =>
          pure (g (fromBeBytes (port.getD 0 0) (port.getD 1 0)))).run c) c.written
        ([], readPort c.input >>= fun port => .ok (g port)) := by
    intro g c
    have hread : (readPort c.input >>= fun port => .ok (g port)) = readTcp 2 c.input >>=
        fun r => .ok (g (fromBeBytes (r.1.getD 0 0) (r.1.getD 1 0))) := by
      rw [readPort]
      cases readTcp 2 c.input <;> rfl
    rw [hread]
    exact refines_read rfl c fun r => hpure _ _
  unfold readSocksAddr EndToEnd.readSocksAddr
  split_ifs with hv4 hname hv6
  · exact refines_read rfl c fun r => hport _ _
  · exact refines_read rfl c fun len => refines_read (by simp) _ fun name => hport _ _
  · exact refines_read (by simp) c fun r => hport _ _
  · exact ⟨rfl, rfl⟩

theorem socksCommand_refines (cmd : UInt8) (target : HostPort) (c : TcpConn) :
    Refines ((socksCommand cmd target).run c) c.written (EndToEnd.socksCommand cmd target) := by
  unfold socksCommand EndToEnd.socksCommand
  split_ifs
  · exact ⟨rfl, (List.append_nil _).symm⟩
  · exact ⟨rfl, (List.append_nil _).symm⟩
  · exact ⟨rfl, rfl⟩

/-- The front of a buffer is what was read into it. -/
theorem getD_read {bytes : List UInt8} {n i : Nat} (hbytes : bytes.length = n) (hi : i < n)
    (buf : List UInt8) : (bytes ++ buf.drop n).getD i 0 = bytes.getD i 0 :=
  List.getD_append _ _ _ _ (by omega)

/-- Nothing is written for an address that is read. -/
theorem readSocksAddr_written {atyp : UInt8} {input written : List UInt8} {target : HostPort}
    (h : EndToEnd.readSocksAddr atyp input = (written, .ok target)) : written = [] := by
  unfold EndToEnd.readSocksAddr at h
  split_ifs at h
  · exact (Prod.mk.inj h).1.symm
  · exact (Prod.mk.inj h).1.symm
  · exact (Prod.mk.inj h).1.symm
  · cases (Prod.mk.inj h).2

/-- The request behind a greeting that was answered. -/
theorem readRequest_refines {buf : List UInt8} (hbuf : 4 ≤ buf.length) (input : List UInt8) :
    Refines ((readRequest buf).run ⟨input, [0x05, 0x00]⟩) []
      (match readTcp 4 input with
      | .error e => ([0x05, 0x00], .error e)
      | .ok (request, input) =>
          match EndToEnd.readSocksAddr (request.getD 3 0) input with
          | (written, .error e) => ([0x05, 0x00] ++ written, .error e)
          | (_, .ok target) =>
              let (written, result) := EndToEnd.socksCommand (request.getD 1 0) target
              ([0x05, 0x00] ++ written, result)) := by
  rw [readRequest, readExact_bind hbuf]
  cases hrequest : readTcp 4 input with
  | error e => exact ⟨rfl, rfl⟩
  | ok r =>
      obtain ⟨request, input⟩ := r
      have hlen := length_readTcp hrequest
      have hbufLen : 4 ≤ (request ++ buf.drop 4).length := by
        rw [List.length_append]
        omega
      dsimp only
      rw [bind_index (by omega), bind_index (by omega), getD_read hlen (by decide),
        getD_read hlen (by decide)]
      have haddr := readSocksAddr_refines (request.getD 3 0) ⟨input, [0x05, 0x00]⟩
      cases hread : (readSocksAddr (request.getD 3 0)).run ⟨input, [0x05, 0x00]⟩ with
      | mk outcome c =>
          rw [hread] at haddr
          obtain ⟨houtcome, hwritten⟩ := haddr
          cases hdecoded : EndToEnd.readSocksAddr (request.getD 3 0) input with
          | mk written result =>
              rw [hdecoded] at houtcome hwritten
              dsimp only at houtcome hwritten
              subst houtcome
              cases result with
              | error e =>
                  rw [bind_error hread]
                  exact ⟨rfl, hwritten⟩
              | ok target =>
                  rw [bind_ok hread]
                  have hcommand := socksCommand_refines (request.getD 1 0) target c
                  rw [readSocksAddr_written hdecoded, List.append_nil] at hwritten
                  rw [hwritten] at hcommand
                  exact hcommand

/-- The handshake with its buffer has the outcome of the decoder. -/
theorem socksHandshake_refines (input : List UInt8) :
    Refines (socksHandshake.run ⟨input, []⟩) [] (EndToEnd.socksHandshake input) := by
  have hlen : (List.replicate 256 (0 : UInt8)).length = 256 := List.length_replicate
  rw [socksHandshake, readExact_bind (by omega), EndToEnd.socksHandshake]
  cases hhead : readTcp 2 input with
  | error e => exact ⟨rfl, rfl⟩
  | ok r =>
      obtain ⟨head, input⟩ := r
      have hheadLen := length_readTcp hhead
      have hbuf : (head ++ (List.replicate 256 (0 : UInt8)).drop 2).length = 256 := by
        rw [List.length_append, List.length_drop]
        omega
      dsimp only
      rw [bind_index (by omega), getD_read hheadLen (by decide)]
      split_ifs
      · exact ⟨rfl, rfl⟩
      · have hcount := (head.getD 1 0).toNat_lt
        rw [bind_index (by omega), getD_read hheadLen (by decide), readExact_bind (by omega)]
        cases hmethods : readTcp (head.getD 1 0).toNat input with
        | error e => exact ⟨rfl, rfl⟩
        | ok r =>
            have hmethodsLen := length_readTcp hmethods
            dsimp only
            rw [bind_writeAll]
            apply readRequest_refines
            rw [List.length_append, List.length_drop]
            omega

/-! ## The contract of the reads -/

/-- The address and port behind a type are read to their end. -/
theorem takes_readSocksAddr (addr : SocksAddr) (port : UInt16) :
    Takes (readSocksAddr addr.atyp) (addr.bytes ++ toBeBytes port) []
      ⟨String.ofList addr.host, port⟩ := by
  have hport : Takes (readExact [0, 0] 2) (toBeBytes port) [] (toBeBytes port) :=
    .readExact rfl (Nat.le_refl 2)
  have hvalue : fromBeBytes ((toBeBytes port).getD 0 0) ((toBeBytes port).getD 1 0) = port :=
    fromBeBytes_toBeBytes port
  cases addr with
  | v4 ip =>
      have haddr : Takes (readExact [0, 0, 0, 0] 4) ip.octets [] ip.octets :=
        .readExact rfl (Nat.le_refl 4)
      rw [readSocksAddr, SocksAddr.atyp, if_pos rfl]
      exact (haddr.bind (hport.map _)).of_value (by rw [hvalue]; rfl)
  | domain name length_name =>
      have hlen : Takes (readExact [0] 1) [.ofNat name.length] [] [.ofNat name.length] :=
        .readExact rfl (Nat.le_refl 1)
      have hname : Takes (readExact (List.replicate (UInt8.ofNat name.length).toNat 0)
          (UInt8.ofNat name.length).toNat) name [] name :=
        .readExact_fresh (SocksAddr.toNat_length length_name).symm
      rw [readSocksAddr, SocksAddr.atyp, if_neg (by decide), if_pos rfl]
      exact (hlen.bind (hname.bind (hport.map _))).of_value (by rw [hvalue]; rfl)
  | v6 octets length_octets =>
      have haddr : Takes (readExact (List.replicate 16 0) 16) octets [] octets :=
        .readExact_fresh length_octets
      rw [readSocksAddr, SocksAddr.atyp, if_neg (by decide), if_neg (by decide), if_pos rfl]
      exact (haddr.bind (hport.map _)).of_value (by rw [hvalue]; rfl)

/-- What a SOCKS client sends first: the version, and how many methods follow. -/
def greeting (methods : List UInt8) : List UInt8 :=
  0x05 :: .ofNat methods.length :: methods

/-- The greeting is read and answered, and the request follows. -/
theorem socksHandshake_greeting {methods : List UInt8} (hmethods : methods.length ≤ 255)
    (rest written : List UInt8) :
    ∃ buf, buf.length = 256 ∧ socksHandshake.run ⟨greeting methods ++ rest, written⟩
      = (readRequest buf).run ⟨rest, written ++ [0x05, 0x00]⟩ := by
  let buf : List UInt8 := 0x05 :: .ofNat methods.length :: List.replicate 254 0
  have hbuf : buf.length = 256 := by
    simp only [buf, List.length_cons, List.length_replicate]
  have hversion : ¬buf.getD 0 0 ≠ 0x05 := not_not_intro rfl
  have hcount := SocksAddr.toNat_length hmethods
  have hhead : Takes (readExact (List.replicate 256 0) 2) [0x05, .ofNat methods.length] [] buf :=
    .readExact rfl (by rw [List.length_replicate]; decide)
  have hmethod : Takes (readExact buf (UInt8.ofNat methods.length).toNat) methods []
      (methods ++ buf.drop (UInt8.ofNat methods.length).toNat) :=
    .readExact hcount.symm (by omega)
  refine ⟨methods ++ buf.drop (UInt8.ofNat methods.length).toNat, ?_, ?_⟩
  · rw [List.length_append, List.length_drop]
    omega
  · have hinput : greeting methods ++ rest
        = [0x05, .ofNat methods.length] ++ (methods ++ rest) := rfl
    rw [hinput, socksHandshake, hhead.run_bind, bind_index (by omega), if_neg hversion,
      bind_index (by omega)]
    have hrequest := hmethod.run_bind (fun buf => writeAll [0x05, 0x00] >>= fun _ =>
      readRequest buf) rest (written ++ [])
    rw [bind_writeAll, List.append_nil, List.append_nil] at hrequest
    rw [List.append_nil]
    exact hrequest

/-- The request is read up to the address type, and the address follows. -/
theorem readRequest_head {buf : List UInt8} (hbuf : 4 ≤ buf.length) (ver cmd rsv atyp : UInt8)
    (rest written : List UInt8) :
    (readRequest buf).run ⟨ver :: cmd :: rsv :: atyp :: rest, written⟩
      = (readSocksAddr atyp >>= socksCommand cmd).run ⟨rest, written⟩ := by
  have hhead : Takes (readExact buf 4) [ver, cmd, rsv, atyp] [] _ := .readExact rfl hbuf
  have hinput : ver :: cmd :: rsv :: atyp :: rest = [ver, cmd, rsv, atyp] ++ rest := rfl
  rw [hinput, readRequest, hhead.run_bind, bind_index (by simp), bind_index (by simp),
    List.append_nil]
  rfl

/-- An address with another type is refused. -/
theorem readSocksAddr_atyp {atyp : UInt8} (hv4 : atyp ≠ 0x01) (hname : atyp ≠ 0x03)
    (hv6 : atyp ≠ 0x04) (c : TcpConn) :
    (readSocksAddr atyp).run c = (.error (.err ("Unsupported address type: " ++ toString atyp)),
      { c with written := c.written ++ [0x05, 0x08] }) := by
  rw [readSocksAddr, if_neg hv4, if_neg hname, if_neg hv6, bind_writeAll]
  rfl

/-- The target of an accepted command. -/
theorem socksCommand_ok {cmd : UInt8} (hcmd : cmd = 0x01 ∨ cmd = 0x03) (target : HostPort)
    (c : TcpConn) :
    (socksCommand cmd target).run c
      = (.ok (if cmd = 0x01 then .connect target else .udpAssociate), c) := by
  rcases hcmd with rfl | rfl <;> rfl

end Buffered

open Buffered in
/-- The two decoders of an address.  On a greeting and a CONNECT or UDP ASSOCIATE
request the handshake takes these bytes and no more off the connection and
returns the target the header parser returns for the same address, whose payload
is what follows it.  On a part of the address, and on another type, both fail
with an error. -/
theorem socks_decoders_agree {methods : List UInt8} (hmethods : methods.length ≤ 255)
    {cmd : UInt8} (hcmd : cmd = 0x01 ∨ cmd = 0x03) (addr : SocksAddr) (port : UInt16) :
    (∀ rest, ∃ target,
      Buffered.socksHandshake.run
          ⟨greeting methods ++ (0x05 :: cmd :: 0x00 :: (addr.encode port ++ rest)), []⟩
        = (.ok (if cmd = 0x01 then .connect target else .udpAssociate), ⟨rest, [0x05, 0x00]⟩) ∧
      Checked.parseSocksUdpHeader (0x00 :: 0x00 :: 0x00 :: (addr.encode port ++ rest))
        = .ok (target, rest)) ∧
    (∀ part, part <+: addr.encode port → part ≠ addr.encode port →
      (∃ message c, Buffered.socksHandshake.run
          ⟨greeting methods ++ (0x05 :: cmd :: 0x00 :: part), []⟩ = (.error (.err message), c)) ∧
      ∃ message, Checked.parseSocksUdpHeader (0x00 :: 0x00 :: 0x00 :: part)
        = .error (.err message)) ∧
    ∀ atyp, atyp ≠ 0x01 → atyp ≠ 0x03 → atyp ≠ 0x04 → ∀ rest,
      (∃ message c, Buffered.socksHandshake.run
          ⟨greeting methods ++ (0x05 :: cmd :: 0x00 :: atyp :: rest), []⟩
        = (.error (.err message), c)) ∧
      ∃ message, Checked.parseSocksUdpHeader (0x00 :: 0x00 :: 0x00 :: atyp :: rest)
        = .error (.err message) := by
  have haddr := takes_readSocksAddr addr port
  refine ⟨fun rest => ⟨⟨String.ofList addr.host, port⟩, ?_, ?_⟩,
    fun part hpart hne => ⟨?_, Checked.parseSocksUdpHeader_cut _ _ addr port hpart hne⟩,
    fun atyp hv4 hname hv6 rest => ⟨?_, _, Checked.parseSocksUdpHeader_atyp _ _ hv4 hname hv6 rest⟩⟩
  · obtain ⟨buf, hbuf, hrun⟩ := socksHandshake_greeting hmethods
      (0x05 :: cmd :: 0x00 :: (addr.encode port ++ rest)) []
    rw [hrun, SocksAddr.encode, List.cons_append, readRequest_head (by omega), haddr.run_bind,
      socksCommand_ok hcmd]
    rfl
  · rw [Checked.parseSocksUdpHeader_eq, parseSocksUdpHeader_encode]
    rfl
  · obtain ⟨buf, hbuf, hrun⟩ := socksHandshake_greeting hmethods (0x05 :: cmd :: 0x00 :: part) []
    rw [hrun]
    cases part with
    | nil =>
        have hhead : Takes (readExact buf 4) [0x05, cmd, 0x00, 0x00] [] _ :=
          .readExact rfl (by omega)
        exact ⟨_, hhead.run_bind_cut _ (by simp) (by simp) _⟩
    | cons atyp part =>
        obtain ⟨rfl, hbytes⟩ := List.cons_prefix_cons.mp hpart
        rw [readRequest_head (by omega)]
        have hneBytes : part ≠ addr.bytes ++ toBeBytes port := fun h => hne (by rw [h]; rfl)
        exact ⟨_, haddr.run_bind_cut _ hbytes hneBytes _⟩
  · obtain ⟨buf, hbuf, hrun⟩ := socksHandshake_greeting hmethods
      (0x05 :: cmd :: 0x00 :: atyp :: rest) []
    rw [hrun, readRequest_head (by omega)]
    exact ⟨_, _, bind_error (readSocksAddr_atyp hv4 hname hv6 _) _⟩

open Buffered in
theorem socks_decoders_agree_domain :
    Buffered.socksHandshake.run
        ⟨[0x05, 1, 0x00, 0x05, 0x01, 0x00, 0x03, 2, 0x61, 0x62, 0, 80, 7, 8], []⟩
      = (.ok (.connect ⟨"ab", 80⟩), ⟨[7, 8], [0x05, 0x00]⟩) ∧
    ∃ message c, Buffered.socksHandshake.run
        ⟨[0x05, 1, 0x00, 0x05, 0x01, 0x00, 0x03, 2, 0x61], []⟩ = (.error (.err message), c) := by
  have hname : [(0x61 : UInt8), 0x62].length ≤ 255 := by decide
  obtain ⟨hfull, hcut, -⟩ := @socks_decoders_agree [0x00] (by decide) 0x01 (.inl rfl)
    (.domain [0x61, 0x62] hname) 80
  obtain ⟨target, hrun, hparse⟩ := hfull [7, 8]
  have hencode : (SocksAddr.domain [0x61, 0x62] hname).encode 80
      = [0x03, 2, 0x61, 0x62, 0, 80] := rfl
  have hgreeting : greeting [0x00] = [0x05, 1, 0x00] := by decide
  have htarget : Checked.parseSocksUdpHeader [0, 0, 0, 0x03, 2, 0x61, 0x62, 0, 80, 7, 8]
      = .ok (⟨"ab", 80⟩, [7, 8]) := by decide +kernel
  rw [hencode] at hrun hparse hcut
  rw [hgreeting] at hrun hcut
  cases hparse.symm.trans htarget
  exact ⟨by simpa using hrun, by simpa using (hcut [0x03, 2, 0x61] (by decide) (by decide)).1⟩

end EndToEnd
end Rusnel
