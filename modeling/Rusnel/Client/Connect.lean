import Rusnel.Client.HappyEyeballs
import Rusnel.Client.Reconnect

/-!
# The reconnect loop with its connects

The reconnect loop joined with what it does to connect: directly, by a race over
the addresses of the server from a pool of endpoints that outlives the races, or
through a SOCKS5 proxy, to the first address only and from an endpoint that is
built for the attempt.  The loop alone is an abstraction of it, in which a connect
succeeds or fails at will.

Main results:

- Theorem {lit}`dialer_refines`: the loop behaves as the one without the connects;
  its sessions run over connections to the server's addresses, made directly from at
  most two sockets that are kept over all reconnects, and behind a proxy from one
  for each attempt.
- Theorem {lit}`dialer_leaves_connecting`: the loop never hangs in a direct connect
  whose handshakes come out.
-/

namespace Rusnel
namespace Connecting

open Net Config HappyEyeballs Reconnect

/-! ## The system -/

structure DialerConfig where
  client : Reconnect.ClientConfig
  addrs : List SocketAddr
  /-- Connect through a SOCKS5 proxy. -/
  proxied : Bool

/-- An endpoint whose socket is a proxy's relay: which of those built so far, the
address the local socket was bound to, the relay and the server behind it. -/
structure ProxiedEndpoint where
  serial : Nat
  bind : SocketAddr
  relay : SocketAddr
  target : SocketAddr
deriving DecidableEq, Repr

/-- What the system answers when an endpoint behind the proxy is built: reading the
TLS files, the relay that the proxy gives, and binding the local socket. -/
structure ProxyDial where
  config : Except String Unit
  association : Except String SocketAddr
  bound : Except String Unit
deriving DecidableEq, Repr

/-- The local socket is of the relay's family, not of the server's. -/
def createClientEndpointViaProxy (serial : Nat) (server : SocketAddr) (dial : ProxyDial) :
    Except String ProxiedEndpoint :=
  match dial.config with
  | .error e => .error e
  | .ok () =>
      match dial.association with
      | .error e => .error e
      | .ok relay =>
          match dial.bound with
          | .error e => .error e
          | .ok () => .ok ⟨serial, bindAddr relay, relay, server⟩

/-- {lit}`proxied_connect` up to its handshake: the endpoint of this attempt. -/
def proxiedConnect (serial : Nat) (addrs : List SocketAddr) (dial : ProxyDial) :
    Except String ProxiedEndpoint :=
  match addrs with
  | [] => .error "no candidate addresses to connect to"
  | server :: _ => createClientEndpointViaProxy serial server dial

/-- What a session runs over. -/
inductive Transport where
  | direct (conn : Connection)
  | proxied (endpoint : ProxiedEndpoint)
deriving DecidableEq, Repr

/-- The loop, the pool, the race it waits for, the endpoint whose handshake through the
proxy it waits for, how many of these were built, and the transport of its session. -/
structure Dialer where
  client : Client
  pool : EndpointPool
  race : Option Connect
  proxy : Option ProxiedEndpoint
  oneShots : Nat
  transport : Option Transport

/-- The client as {lit}`run_async` sets it up; {lit}`primary` panics if there is no
address. -/
def Dialer.start (cfg : DialerConfig) (built : Except String Unit) :
    Except Text.Failure Dialer :=
  if cfg.proxied then .ok ⟨.init cfg.client, .empty, none, none, 0, none⟩
  else
    match cfg.addrs with
    | [] => .error .abort
    | primary :: _ =>
        match EndpointPool.new primary built with
        | .ok pool => .ok ⟨.init cfg.client, pool, none, none, 0, none⟩
        | .error e => .error (.err e)

/-- The session is set up, runs or is closed. -/
def inSession : Phase → Bool
  | .hello _ => true
  | .spawning _ _ => true
  | .serving _ _ => true
  | .closing => true
  | _ => false

/-- The loop is in its connect select. -/
def isConnecting : Phase → Bool
  | .connecting _ => true
  | _ => false

inductive DialAction where
  /-- A step of the loop or a sender that has nothing to do with connecting. -/
  | base (a : Reconnect.Action)
  /-- The loop enters the connect select. -/
  | dial (dial : Nat → Dial)
  /-- The race goes on. -/
  | race (a : RaceAction)
  /-- The race has returned. -/
  | raceReturned
  /-- The endpoint of a connect through the proxy is built, or could not be. -/
  | proxyEndpoint (dial : ProxyDial)
  /-- Its handshake has come out. -/
  | proxyReturned (handshake : Except String Unit)

/-- The steps of the loop that a connect decides. -/
def connects : Reconnect.Action → Bool
  | .loop .subscribe => true
  | .loop .connected => true
  | .loop .connectFailed => true
  | _ => false

/-- The loop goes on; what is dropped with a phase is dropped. -/
def Dialer.follow (d : Dialer) (c : Client) : Dialer :=
  { d with
    client := c
    race := if isConnecting c.phase then d.race else none
    proxy := if isConnecting c.phase then d.proxy else none
    transport := if inSession c.phase then d.transport else none }

/-- A step of the client. -/
def step (cfg : DialerConfig) (d : Dialer) : DialAction → Option Dialer
  | .base a =>
      if connects a then none else (Reconnect.step cfg.client d.client a).map d.follow
  | .dial dial =>
      (loopStep cfg.client d.client .subscribe).map fun c =>
        if cfg.proxied then { d with client := c }
        else
          { d with
            client := c
            pool := (happyEyeballsConnect d.pool cfg.addrs dial).1
            race := some (happyEyeballsConnect d.pool cfg.addrs dial).2 }
  | .race a =>
      match d.race with
      | some r => (HappyEyeballs.step r a).map fun r => { d with race := some r }
      | none => none
  | .raceReturned =>
      match d.race.bind (·.result) with
      | some (.ok conn) =>
          (loopStep cfg.client d.client .connected).map fun c =>
            { d with client := c, race := none, transport := some (.direct conn) }
      | some (.error _) =>
          (loopStep cfg.client d.client .connectFailed).map fun c =>
            { d with client := c, race := none }
      | none => none
  | .proxyEndpoint dial =>
      if cfg.proxied = true ∧ isConnecting d.client.phase = true ∧ d.proxy = none then
        match proxiedConnect d.oneShots cfg.addrs dial with
        | .ok endpoint => some { d with proxy := some endpoint, oneShots := d.oneShots + 1 }
        | .error _ =>
            (loopStep cfg.client d.client .connectFailed).map fun c => { d with client := c }
      else none
  | .proxyReturned handshake =>
      match d.proxy, handshake with
      | some endpoint, .ok () =>
          (loopStep cfg.client d.client .connected).map fun c =>
            { d with client := c, proxy := none, transport := some (.proxied endpoint) }
      | some _, .error _ =>
          (loopStep cfg.client d.client .connectFailed).map fun c =>
            { d with client := c, proxy := none }
      | none, _ => none

abbrev run (cfg : DialerConfig) (d : Dialer) (acts : List DialAction) : Option Dialer :=
  Transition.run (step cfg) d acts

/-- The steps of the client, each with what enabled it. -/
inductive DialStep (cfg : DialerConfig) (d : Dialer) : Dialer → Prop where
  | base (a : Reconnect.Action) (c : Client) (ha : connects a = false)
      (hstep : Reconnect.step cfg.client d.client a = some c) : DialStep cfg d (d.follow c)
  | dialProxied (c : Client) (hproxied : cfg.proxied = true)
      (hstep : loopStep cfg.client d.client .subscribe = some c) :
      DialStep cfg d { d with client := c }
  | dialDirect (c : Client) (dial : Nat → Dial) (hdirect : cfg.proxied = false)
      (hstep : loopStep cfg.client d.client .subscribe = some c) :
      DialStep cfg d
        { d with
          client := c
          pool := (happyEyeballsConnect d.pool cfg.addrs dial).1
          race := some (happyEyeballsConnect d.pool cfg.addrs dial).2 }
  | race (a : RaceAction) (r r' : Connect) (hrace : d.race = some r)
      (hstep : HappyEyeballs.step r a = some r') : DialStep cfg d { d with race := some r' }
  | won (r : Connect) (conn : Connection) (c : Client) (hrace : d.race = some r)
      (hresult : r.result = some (.ok conn))
      (hstep : loopStep cfg.client d.client .connected = some c) :
      DialStep cfg d { d with client := c, race := none, transport := some (.direct conn) }
  | lost (r : Connect) (e : String) (c : Client) (hrace : d.race = some r)
      (hresult : r.result = some (.error e))
      (hstep : loopStep cfg.client d.client .connectFailed = some c) :
      DialStep cfg d { d with client := c, race := none }
  | proxyBuilt (dial : ProxyDial) (endpoint : ProxiedEndpoint) (hproxied : cfg.proxied = true)
      (hphase : isConnecting d.client.phase = true)
      (hconnect : proxiedConnect d.oneShots cfg.addrs dial = .ok endpoint) :
      DialStep cfg d { d with proxy := some endpoint, oneShots := d.oneShots + 1 }
  | proxyRefused (c : Client) (hnone : d.proxy = none)
      (hstep : loopStep cfg.client d.client .connectFailed = some c) :
      DialStep cfg d { d with client := c }
  | proxied (endpoint : ProxiedEndpoint) (c : Client) (hproxy : d.proxy = some endpoint)
      (hstep : loopStep cfg.client d.client .connected = some c) :
      DialStep cfg d { d with client := c, proxy := none, transport := some (.proxied endpoint) }
  | proxyFailed (c : Client) (hstep : loopStep cfg.client d.client .connectFailed = some c) :
      DialStep cfg d { d with client := c, proxy := none }

variable {cfg : DialerConfig} {d d' : Dialer}

theorem step_cases {a : DialAction} (h : step cfg d a = some d') : DialStep cfg d d' := by
  cases a with
  | base a =>
      rw [step] at h
      split at h
      · cases h
      · rename_i ha
        obtain ⟨c, hc, rfl⟩ := Option.map_eq_some_iff.mp h
        exact .base a c (by simpa using ha) hc
  | dial dial =>
      obtain ⟨c, hc, rfl⟩ := Option.map_eq_some_iff.mp h
      by_cases hproxied : cfg.proxied = true
      · rw [if_pos hproxied]
        exact .dialProxied c hproxied hc
      · rw [if_neg hproxied]
        exact .dialDirect c dial (by simpa using hproxied) hc
  | race a =>
      rw [step] at h
      cases hrace : d.race with
      | none => rw [hrace] at h; cases h
      | some r =>
          rw [hrace] at h
          obtain ⟨r', hr', rfl⟩ := Option.map_eq_some_iff.mp h
          exact .race a r r' hrace hr'
  | raceReturned =>
      rw [step] at h
      split at h
      · rename_i conn hresult
        obtain ⟨r, hrace, hr⟩ := Option.bind_eq_some_iff.mp hresult
        obtain ⟨c, hc, rfl⟩ := Option.map_eq_some_iff.mp h
        exact .won r conn c hrace hr hc
      · rename_i e hresult
        obtain ⟨r, hrace, hr⟩ := Option.bind_eq_some_iff.mp hresult
        obtain ⟨c, hc, rfl⟩ := Option.map_eq_some_iff.mp h
        exact .lost r e c hrace hr hc
      · cases h
  | proxyEndpoint dial =>
      rw [step] at h
      split at h
      · rename_i hready
        obtain ⟨hproxied, hphase, hnone⟩ := hready
        split at h
        · rename_i endpoint hconnect
          cases h
          exact .proxyBuilt dial endpoint hproxied hphase hconnect
        · obtain ⟨c, hc, rfl⟩ := Option.map_eq_some_iff.mp h
          exact .proxyRefused c hnone hc
      · cases h
  | proxyReturned handshake =>
      cases hproxy : d.proxy with
      | none => simp [step, hproxy] at h
      | some endpoint =>
          cases handshake with
          | ok _ =>
              simp only [step, hproxy] at h
              obtain ⟨c, hc, rfl⟩ := Option.map_eq_some_iff.mp h
              exact .proxied endpoint c hproxy hc
          | error e =>
              simp only [step, hproxy] at h
              obtain ⟨c, hc, rfl⟩ := Option.map_eq_some_iff.mp h
              exact .proxyFailed c hc

/-! ## The loop alone -/

/-- The steps of the loop that its client takes. -/
theorem DialStep.follows (h : DialStep cfg d d') :
    d'.client = d.client ∨ ∃ a, Reconnect.step cfg.client d.client a = some d'.client := by
  cases h with
  | base a c ha hstep => exact .inr ⟨a, hstep⟩
  | race a r r' hrace hstep => exact .inl rfl
  | dialProxied c hproxied hstep => exact .inr ⟨.loop .subscribe, hstep⟩
  | dialDirect c dial hdirect hstep => exact .inr ⟨.loop .subscribe, hstep⟩
  | won r conn c hrace hresult hstep => exact .inr ⟨.loop .connected, hstep⟩
  | lost r e c hrace hresult hstep => exact .inr ⟨.loop .connectFailed, hstep⟩
  | proxyBuilt dial endpoint hproxied hphase hconnect => exact .inl rfl
  | proxyRefused c hnone hstep => exact .inr ⟨.loop .connectFailed, hstep⟩
  | proxied endpoint c hproxy hstep => exact .inr ⟨.loop .connected, hstep⟩
  | proxyFailed c hstep => exact .inr ⟨.loop .connectFailed, hstep⟩

/-- A step that has nothing to do with connecting enters neither a connect nor a
session. -/
theorem phase_of_base {cfg : Reconnect.ClientConfig} {c c' : Client} {a : Reconnect.Action}
    (ha : connects a = false) (h : Reconnect.step cfg c a = some c') :
    (isConnecting c'.phase = true → c'.phase = c.phase) ∧
      (inSession c'.phase = true → inSession c.phase = true) := by
  cases a with
  | loop a =>
      have hloop := loopStep_cases h
      cases hloop with
      | subscribe hphase => cases ha
      | connected rx hphase => cases ha
      | connectFailed rx hphase => cases ha
      | connectShutdown rx hphase hready => exact ⟨nofun, nofun⟩
      | helloAccepted rx response ids hphase hids =>
          exact ⟨nofun, fun _ => by rw [hphase]; rfl⟩
      | helloRefused rx response reason hphase hreason => exact ⟨nofun, nofun⟩
      | helloFailed rx hphase => exact ⟨nofun, nofun⟩
      | spawn rx remote todo hphase => exact ⟨nofun, fun _ => by rw [hphase]; rfl⟩
      | subscribeMain rx hphase => exact ⟨nofun, fun _ => by rw [hphase]; rfl⟩
      | mainShutdown rx main hphase hready => exact ⟨nofun, fun _ => by rw [hphase]; rfl⟩
      | connectionClosed rx main hphase => exact ⟨nofun, nofun⟩
      | closed hphase => exact ⟨nofun, nofun⟩
      | retry rx hphase =>
          rcases retry_phase cfg.reconnect c rx with hnew | ⟨result, hnew⟩ <;> rw [hnew] <;>
            exact ⟨nofun, nofun⟩
      | backoffShutdown rx hphase hready => exact ⟨nofun, nofun⟩
      | sleepDone rx hphase => exact ⟨nofun, nofun⟩
  | ctrlC =>
      have hphase := (step_sends rfl h).1
      exact ⟨fun _ => hphase, fun hin => hphase ▸ hin⟩
  | stdioDone =>
      have hphase := (step_sends rfl h).1
      exact ⟨fun _ => hphase, fun hin => hphase ▸ hin⟩
  | abortedDone =>
      have hphase := (step_sends rfl h).1
      exact ⟨fun _ => hphase, fun hin => hphase ▸ hin⟩

/-! ## The invariant -/

/-- The endpoint leads to the first of the server's addresses, from a socket of the
relay's family. -/
structure ProxiedEndpoint.Valid (cfg : DialerConfig) (endpoint : ProxiedEndpoint) : Prop where
  proxied : cfg.proxied = true
  target : cfg.addrs.head? = some endpoint.target
  family : isIpv6 endpoint.bind = isIpv6 endpoint.relay

/-- The transport leads to the server. -/
def Transport.Valid (cfg : DialerConfig) (pool : EndpointPool) : Transport → Prop
  | .direct conn =>
      cfg.proxied = false ∧ conn.peer ∈ cfg.addrs ∧ pool.slot conn.peer = some conn.endpoint ∧
        isIpv6 conn.endpoint.bind = isIpv6 conn.peer
  | .proxied endpoint => endpoint.Valid cfg

/-- The race was started from the pool as it was before and has gone on since. -/
def Racing (cfg : DialerConfig) (pool : EndpointPool) (r : Connect) : Prop :=
  ∃ before dial acts, before.WellFormed ∧ (happyEyeballsConnect before cfg.addrs dial).1 = pool ∧
    HappyEyeballs.run (happyEyeballsConnect before cfg.addrs dial).2 acts = some r

structure Lawful (cfg : DialerConfig) (d : Dialer) : Prop where
  pool : d.pool.WellFormed
  race : ∀ r, d.race = some r → cfg.proxied = false ∧ Racing cfg d.pool r
  /-- A direct connect has a race. -/
  racing : isConnecting d.client.phase = true → cfg.proxied = false → d.race.isSome = true
  /-- Only a connect through the proxy waits for a handshake behind it. -/
  proxying : isConnecting d.client.phase = false → d.proxy = none
  proxy : ∀ endpoint, d.proxy = some endpoint →
    endpoint.Valid cfg ∧ endpoint.serial < d.oneShots
  transport : inSession d.client.phase = true →
    ∃ transport, d.transport = some transport ∧ transport.Valid cfg d.pool
  /-- The transport goes with the session. -/
  idle : inSession d.client.phase = false → d.transport = none
  serial : ∀ endpoint, d.transport = some (.proxied endpoint) → endpoint.serial < d.oneShots
  /-- A client uses the pool or the proxy, never both. -/
  direct : cfg.proxied = false → d.oneShots = 0
  pooled : cfg.proxied = true → d.pool = .empty

theorem start_lawful {built : Except String Unit} (h : Dialer.start cfg built = .ok d) :
    Lawful cfg d ∧ d.client = .init cfg.client := by
  unfold Dialer.start at h
  split at h
  · cases h
    exact ⟨⟨EndpointPool.empty_wellFormed, nofun, nofun, fun _ => rfl, nofun, nofun,
      fun _ => rfl, nofun, fun _ => rfl, fun _ => rfl⟩, rfl⟩
  · rename_i hproxied
    split at h
    · cases h
    · split at h
      · rename_i pool hpool
        cases h
        exact ⟨⟨EndpointPool.new_wellFormed hpool, nofun, nofun, fun _ => rfl, nofun, nofun,
          fun _ => rfl, nofun, fun _ => rfl, fun h => absurd h hproxied⟩, rfl⟩
      · cases h

theorem proxiedConnect_ok (hproxied : cfg.proxied = true) {serial : Nat} {dial : ProxyDial}
    {endpoint : ProxiedEndpoint} (h : proxiedConnect serial cfg.addrs dial = .ok endpoint) :
    endpoint.Valid cfg ∧ endpoint.serial = serial := by
  unfold proxiedConnect at h
  split at h
  · cases h
  · rename_i server rest haddrs
    unfold createClientEndpointViaProxy at h
    split at h
    · cases h
    · split at h
      · cases h
      · split at h
        · cases h
        · cases h
          exact ⟨⟨hproxied, by rw [haddrs]; rfl, EndpointPool.isIpv6_bindAddr _⟩, rfl⟩

/-- Where the loop is after a step that a connect decides. -/
theorem phase_of_subscribe {cfg : Reconnect.ClientConfig} {c c' : Client}
    (h : loopStep cfg c .subscribe = some c') :
    isConnecting c.phase = false ∧ inSession c.phase = false ∧
      isConnecting c'.phase = true ∧ inSession c'.phase = false := by
  cases loopStep_cases h with
  | subscribe hphase =>
      rw [hphase]
      exact ⟨rfl, rfl, rfl, rfl⟩

theorem phase_of_connected {cfg : Reconnect.ClientConfig} {c c' : Client}
    (h : loopStep cfg c .connected = some c') :
    isConnecting c'.phase = false ∧ inSession c'.phase = true := by
  cases loopStep_cases h
  exact ⟨rfl, rfl⟩

theorem phase_of_connectFailed {cfg : Reconnect.ClientConfig} {c c' : Client}
    (h : loopStep cfg c .connectFailed = some c') :
    inSession c.phase = false ∧ isConnecting c'.phase = false ∧ inSession c'.phase = false := by
  cases loopStep_cases h with
  | connectFailed rx hphase =>
      rw [hphase]
      exact ⟨rfl, rfl, rfl⟩

theorem Racing.transport_valid {pool : EndpointPool} {r : Connect} (h : Racing cfg pool r)
    (hdirect : cfg.proxied = false) {conn : Connection} (hresult : r.result = some (.ok conn)) :
    (Transport.direct conn).Valid cfg pool := by
  obtain ⟨before, dial, acts, hbefore, rfl, hrun⟩ := h
  obtain ⟨k, a, time, -, -, rfl, haddr, hslot⟩ :=
    (run_sound hbefore hrun).connection hbefore hresult
  exact ⟨hdirect, List.mem_of_getElem? haddr, hslot,
    (connect_wellFormed hbefore cfg.addrs dial).1.slot hslot⟩

/-- A direct client has no endpoint behind a proxy. -/
theorem Lawful.proxy_none (h : Lawful cfg d) (hdirect : cfg.proxied = false) : d.proxy = none := by
  cases hproxy : d.proxy with
  | none => rfl
  | some endpoint =>
      have hproxied := (h.proxy endpoint hproxy).1.proxied
      rw [hdirect] at hproxied
      cases hproxied

/-- A connect that has failed drops what it waited for. -/
theorem Lawful.failed (h : Lawful cfg d) {c : Client}
    (hstep : loopStep cfg.client d.client .connectFailed = some c) (race : Option Connect)
    (hrace : ∀ r, race = some r → d.race = some r) :
    Lawful cfg { d with client := c, race := race, proxy := none } := by
  obtain ⟨hbefore, hconnecting, hsession⟩ := phase_of_connectFailed hstep
  have htransport := h.idle hbefore
  exact ⟨h.pool, fun r hr => h.race r (hrace r hr), by simp [hconnecting], fun _ => rfl, nofun,
    by simp [hsession], fun _ => htransport, by simp [htransport], h.direct, h.pooled⟩

theorem DialStep.lawful (h : Lawful cfg d) (hstep : DialStep cfg d d') : Lawful cfg d' := by
  cases hstep with
  | base a c ha hstep =>
      obtain ⟨hconnecting, hsession⟩ := phase_of_base ha hstep
      refine ⟨h.pool, fun r hr => ?_, fun hc hdirect => ?_, fun hc => ?_, fun endpoint he => ?_,
        fun hs => ?_, fun hs => ?_, fun endpoint he => ?_, h.direct, h.pooled⟩
      · simp only [Dialer.follow] at hr
        split at hr
        · exact h.race r hr
        · cases hr
      · have hkept : (d.follow c).race = d.race := if_pos hc
        rw [hkept]
        exact h.racing (hconnecting hc ▸ hc) hdirect
      · exact if_neg (by rw [Bool.not_eq_true]; exact hc)
      · simp only [Dialer.follow] at he
        split at he
        · exact h.proxy endpoint he
        · cases he
      · obtain ⟨transport, htransport, hvalid⟩ := h.transport (hsession hs)
        have hkept : (d.follow c).transport = d.transport := if_pos hs
        exact ⟨transport, hkept.trans htransport, hvalid⟩
      · exact if_neg (by rw [Bool.not_eq_true]; exact hs)
      · simp only [Dialer.follow] at he
        split at he
        · exact h.serial endpoint he
        · cases he
  | dialProxied c hproxied hstep =>
      obtain ⟨-, hsession, hconnecting, hsession'⟩ := phase_of_subscribe hstep
      have htransport := h.idle hsession
      exact ⟨h.pool, h.race, by simp [hproxied], by simp [hconnecting], h.proxy,
        by simp [hsession'], fun _ => htransport, by simp [htransport], h.direct, h.pooled⟩
  | dialDirect c dial hdirect hstep =>
      obtain ⟨-, hsession, hconnecting, hsession'⟩ := phase_of_subscribe hstep
      have htransport := h.idle hsession
      have hpool := (connect_wellFormed h.pool cfg.addrs dial).1
      refine ⟨hpool, fun r hr => ?_, fun _ _ => rfl, by simp [hconnecting], h.proxy,
        by simp [hsession'], fun _ => htransport, by simp [htransport], h.direct,
        by simp [hdirect]⟩
      cases hr
      exact ⟨hdirect, d.pool, dial, [], h.pool, rfl, rfl⟩
  | race a r r' hrace hstep =>
      obtain ⟨hdirect, before, dial, acts, hbefore, hpool, hrun⟩ := h.race r hrace
      refine ⟨h.pool, fun r hr => ?_, fun _ _ => rfl, h.proxying, h.proxy, h.transport, h.idle,
        h.serial, h.direct, h.pooled⟩
      cases hr
      exact ⟨hdirect, before, dial, acts ++ [a], hbefore, hpool,
        Transition.run_concat_eq_some.mpr ⟨_, hrun, hstep⟩⟩
  | won r conn c hrace hresult hstep =>
      obtain ⟨hdirect, hracing⟩ := h.race r hrace
      obtain ⟨hconnecting, hsession⟩ := phase_of_connected hstep
      exact ⟨h.pool, nofun, by simp [hconnecting], fun _ => h.proxy_none hdirect, h.proxy,
        fun _ => ⟨_, rfl, hracing.transport_valid hdirect hresult⟩, by simp [hsession], nofun,
        h.direct, h.pooled⟩
  | lost r e c hrace hresult hstep =>
      have hlawful := h.failed hstep none nofun
      rw [← h.proxy_none (h.race r hrace).1] at hlawful
      exact hlawful
  | proxyBuilt dial endpoint hproxied hphase hconnect =>
      obtain ⟨hvalid, hserial⟩ := proxiedConnect_ok hproxied hconnect
      refine ⟨h.pool, h.race, h.racing, by simp [hphase], ?_, h.transport, h.idle,
        fun endpoint he => Nat.lt_succ_of_lt (h.serial endpoint he), by simp [hproxied], h.pooled⟩
      rintro _ ⟨⟩
      exact ⟨hvalid, hserial ▸ Nat.lt_succ_self _⟩
  | proxyRefused c hnone hstep =>
      have hlawful := h.failed hstep d.race fun _ hr => hr
      rw [← hnone] at hlawful
      exact hlawful
  | proxied endpoint c hproxy hstep =>
      obtain ⟨hconnecting, hsession⟩ := phase_of_connected hstep
      obtain ⟨hvalid, hserial⟩ := h.proxy endpoint hproxy
      refine ⟨h.pool, h.race, by simp [hconnecting], fun _ => rfl, nofun,
        fun _ => ⟨_, rfl, hvalid⟩, by simp [hsession], ?_, h.direct, h.pooled⟩
      rintro _ ⟨⟩
      exact hserial
  | proxyFailed c hstep => exact h.failed hstep d.race fun _ hr => hr

variable {acts : List DialAction}

theorem run_lawful (h : Lawful cfg d) (hrun : run cfg d acts = some d') : Lawful cfg d' :=
  Transition.run_invariant (P := Lawful cfg) (fun _ _ _ h hstep => (step_cases hstep).lawful h)
    h hrun

/-- An endpoint that was built stays. -/
theorem DialStep.slot_kept (h : Lawful cfg d) (hstep : DialStep cfg d d') {addr : SocketAddr}
    {endpoint : Endpoint} (hslot : d.pool.slot addr = some endpoint) :
    d'.pool.slot addr = some endpoint := by
  cases hstep with
  | dialDirect c dial hdirect hstep =>
      exact (connect_wellFormed h.pool cfg.addrs dial).2 addr endpoint hslot
  | _ => exact hslot

theorem run_slot_kept (h : Lawful cfg d) (hrun : run cfg d acts = some d') {addr : SocketAddr}
    {endpoint : Endpoint} (hslot : d.pool.slot addr = some endpoint) :
    d'.pool.slot addr = some endpoint :=
  (Transition.run_invariant
    (P := fun d => Lawful cfg d ∧ d.pool.slot addr = some endpoint)
    (fun _ _ _ h hstep => ⟨(step_cases hstep).lawful h.1, (step_cases hstep).slot_kept h.1 h.2⟩)
    ⟨h, hslot⟩ hrun).2

/-- Leaving out the races, the loop takes the steps of the loop alone. -/
theorem run_follows (hrun : run cfg d acts = some d') :
    ∃ loop, Reconnect.run cfg.client d.client loop = some d'.client := by
  refine Transition.run_induction
    (P := fun _ d' => ∃ loop, Reconnect.run cfg.client d.client loop = some d'.client)
    ⟨[], rfl⟩ ?_ hrun
  rintro acts a mid d' - ⟨loop, hloop⟩ hstep
  rcases (step_cases hstep).follows with hsame | ⟨b, hb⟩
  · exact ⟨loop, hsame ▸ hloop⟩
  · exact ⟨loop ++ [b], Transition.run_concat_eq_some.mpr ⟨_, hloop, hb⟩⟩

/-- Every endpoint in use behind the proxy is one of those built from a point on. -/
structure Fresh (built : Nat) (d : Dialer) : Prop where
  built_le : built ≤ d.oneShots
  proxy : ∀ endpoint, d.proxy = some endpoint → built ≤ endpoint.serial
  transport : ∀ endpoint, d.transport = some (.proxied endpoint) → built ≤ endpoint.serial

theorem DialStep.fresh {built : Nat} (h : Fresh built d) (hstep : DialStep cfg d d') :
    Fresh built d' := by
  cases hstep with
  | base a c ha hstep =>
      refine ⟨h.built_le, fun endpoint he => ?_, fun endpoint he => ?_⟩
      · simp only [Dialer.follow] at he
        split at he
        · exact h.proxy endpoint he
        · cases he
      · simp only [Dialer.follow] at he
        split at he
        · exact h.transport endpoint he
        · cases he
  | won r conn c hrace hresult hstep => exact ⟨h.built_le, h.proxy, nofun⟩
  | proxyBuilt dial endpoint hproxied hphase hconnect =>
      refine ⟨Nat.le_succ_of_le h.built_le, ?_, h.transport⟩
      rintro _ ⟨⟩
      rw [(proxiedConnect_ok hproxied hconnect).2]
      exact h.built_le
  | proxied endpoint c hproxy hstep =>
      refine ⟨h.built_le, nofun, ?_⟩
      rintro _ ⟨⟩
      exact h.proxy endpoint hproxy
  | proxyFailed c hstep => exact ⟨h.built_le, nofun, h.transport⟩
  | dialProxied c hproxied hstep => exact ⟨h.built_le, h.proxy, h.transport⟩
  | dialDirect c dial hdirect hstep => exact ⟨h.built_le, h.proxy, h.transport⟩
  | race a r r' hrace hstep => exact ⟨h.built_le, h.proxy, h.transport⟩
  | lost r e c hrace hresult hstep => exact ⟨h.built_le, h.proxy, h.transport⟩
  | proxyRefused c hnone hstep => exact ⟨h.built_le, h.proxy, h.transport⟩

/-- A connect starts with no endpoint behind the proxy. -/
theorem step_dial_fresh (h : Lawful cfg d) {dial : Nat → Dial}
    (hstep : step cfg d (.dial dial) = some d') : Fresh d.oneShots d' := by
  obtain ⟨c, hc, rfl⟩ := Option.map_eq_some_iff.mp hstep
  obtain ⟨hconnecting, hsession, -, -⟩ := phase_of_subscribe hc
  have hproxy := h.proxying hconnecting
  have htransport := h.idle hsession
  split <;> exact ⟨Nat.le_refl _, by simp [hproxy], by simp [htransport]⟩

/-- Two sessions with a connect between them do not share an endpoint behind the
proxy. -/
theorem run_renewed (h : Lawful cfg d) (hrun : run cfg d acts = some d') {dial : Nat → Dial}
    (hdial : .dial dial ∈ acts) {endpoint endpoint' : ProxiedEndpoint}
    (hold : d.transport = some (.proxied endpoint))
    (hnew : d'.transport = some (.proxied endpoint')) : endpoint.serial < endpoint'.serial := by
  obtain ⟨before, after, rfl⟩ := List.append_of_mem hdial
  obtain ⟨mid, hbefore, hafter⟩ := Transition.run_append_eq_some.mp hrun
  obtain ⟨next, hnext, hrest⟩ := Transition.run_cons_eq_some.mp hafter
  have hkept : d.oneShots ≤ mid.oneShots := Transition.run_invariant
    (P := fun mid => d.oneShots ≤ mid.oneShots) (fun _ _ _ hle hstep => by
      cases step_cases hstep <;> first | exact hle | exact Nat.le_succ_of_le hle)
    (Nat.le_refl _) hbefore
  have hfresh : Fresh mid.oneShots d' := Transition.run_invariant (P := Fresh mid.oneShots)
    (fun _ _ _ h hstep => (step_cases hstep).fresh h)
    (step_dial_fresh (run_lawful h hbefore) hnext) hrest
  calc endpoint.serial < d.oneShots := h.serial endpoint hold
    _ ≤ mid.oneShots := hkept
    _ ≤ endpoint'.serial := hfresh.transport endpoint' hnew

/-- Over every run of a client, through any number of reconnects: the loop behaves
as the loop in which a connect succeeds or fails at will, and a session runs over a
connection to one of the server's addresses on the pool's endpoint of its family,
or through the proxy to the first address.  A direct client builds no more than two
endpoints in all, and one that was built is never replaced.  Behind a proxy the pool
is empty, and two sessions with a connect between them run on different endpoints. -/
theorem dialer_refines {cfg : DialerConfig} {built : Except String Unit} {start d : Dialer}
    (hstart : Dialer.start cfg built = .ok start) {acts : List DialAction}
    (hrun : run cfg start acts = some d) :
    (∃ loop, Reconnect.run cfg.client (.init cfg.client) loop = some d.client) ∧
    (inSession d.client.phase = true →
      ∃ transport, d.transport = some transport ∧ transport.Valid cfg d.pool) ∧
    (cfg.proxied = false → d.pool.built + d.oneShots ≤ 2 ∧
      ∀ more d', run cfg d more = some d' → ∀ addr endpoint,
        d.pool.slot addr = some endpoint → d'.pool.slot addr = some endpoint) ∧
    (cfg.proxied = true → d.pool.built = 0 ∧
      ∀ more d', run cfg d more = some d' → ∀ dial, .dial dial ∈ more →
        ∀ endpoint endpoint', d.transport = some (.proxied endpoint) →
          d'.transport = some (.proxied endpoint') → endpoint.serial < endpoint'.serial) := by
  obtain ⟨hlawful, hinit⟩ := start_lawful hstart
  have h := run_lawful hlawful hrun
  refine ⟨hinit ▸ run_follows hrun, h.transport, fun hdirect => ⟨?_, ?_⟩, fun hproxied => ⟨?_, ?_⟩⟩
  · rw [h.direct hdirect]
    exact h.pool.built_le
  · exact fun more d' hmore addr endpoint => run_slot_kept h hmore
  · rw [h.pooled hproxied]
    rfl
  · exact fun more d' hmore dial hdial endpoint endpoint' => run_renewed h hmore hdial

/-- A client without remotes of a server with two addresses. -/
def sampleConfig : DialerConfig where
  client := { remotes := [], reconnect := .default }
  addrs := sampleAddrs
  proxied := false

/-- It as it is set up, with a socket for the first address. -/
def sampleDialer : Dialer where
  client := .init sampleConfig.client
  pool := EndpointPool.empty.fill (.v6 .localhost 8080 0 0) ⟨0, .v6 .unspecified 0 0 0⟩
  race := none
  proxy := none
  oneShots := 0
  transport := none

/-- The client greets the server over IPv4 after the IPv6 handshake has failed. -/
theorem dialer_refines_sample :
    ∃ d, run sampleConfig sampleDialer
        (.dial sampleDial :: sampleRace.map .race ++ [.raceReturned]) = some d ∧
      inSession d.client.phase = true ∧ d.pool.built + d.oneShots ≤ 2 ∧
      ∃ transport, d.transport = some transport ∧ transport.Valid sampleConfig d.pool := by
  have hcheck : ((run sampleConfig sampleDialer
      (.dial sampleDial :: sampleRace.map .race ++ [.raceReturned])).any
        fun d => inSession d.client.phase) = true := by
    decide +kernel
  obtain ⟨d, hrun, hsession⟩ := (Option.any_eq_true _ _).mp hcheck
  have hstart : Dialer.start sampleConfig (.ok ()) = .ok sampleDialer := rfl
  obtain ⟨-, htransport, hbuilt, -⟩ := dialer_refines hstart hrun
  exact ⟨d, hrun, hsession, (hbuilt rfl).1, htransport hsession⟩

/-! ## The loop leaves the connect -/

/-- The steps of the race are steps of the client. -/
theorem run_race (cfg : DialerConfig) {r r' : Connect} (hrace : d.race = some r)
    {acts : List RaceAction} (hrun : HappyEyeballs.run r acts = some r') :
    run cfg d (acts.map .race) = some { d with race := some r' } := by
  induction acts generalizing d r with
  | nil =>
      cases hrun
      rw [← hrace]
      rfl
  | cons a acts ih =>
      obtain ⟨mid, hmid, hrest⟩ := Transition.run_cons_eq_some.mp hrun
      have hstep : step cfg d (.race a) = some { d with race := some mid } := by
        simp only [step, hrace, hmid, Option.map_some]
      exact Transition.run_cons_eq_some.mpr ⟨_, hstep, ih rfl hrest⟩

/-- The race has returned a connection, or does if its handshakes come out as
given. -/
def Connects (r : Connect) (outcomes : Nat → Except String Unit) : Prop :=
  (∃ conn, r.result = some (.ok conn)) ∨ r.result = none ∧ Promising r outcomes

/-- If its handshakes come out as given, what the race has returned is a connection
exactly if it connects. -/
theorem connects_iff {r r' : Connect} {acts : List RaceAction}
    {outcomes : Nat → Except String Unit} (hagrees : Agrees outcomes acts)
    (hrun : HappyEyeballs.run r acts = some r') {result : Except String Connection}
    (hresult : r'.result = some result) :
    (∃ conn, result = .ok conn) ↔ Connects r outcomes := by
  cases hopen : r.result with
  | none =>
      rw [run_promising hagrees hopen hrun hresult]
      simp [Connects, hopen]
  | some before =>
      cases run_of_returned hopen hrun
      cases hopen.symm.trans hresult
      simp [Connects, hopen]

/-- The steps of the client that are steps of its race are nothing else. -/
theorem race_of_run {r : Connect} (hrace : d.race = some r) {acts : List RaceAction}
    (hrun : run cfg d (acts.map .race) = some d') :
    ∃ r', HappyEyeballs.run r acts = some r' ∧ d' = { d with race := some r' } := by
  induction acts generalizing d r with
  | nil =>
      cases hrun
      exact ⟨r, rfl, by rw [← hrace]⟩
  | cons a acts ih =>
      obtain ⟨mid, hmid, hrest⟩ := Transition.run_cons_eq_some.mp hrun
      simp only [step, hrace] at hmid
      obtain ⟨next, hnext, rfl⟩ := Option.map_eq_some_iff.mp hmid
      obtain ⟨r', hr', rfl⟩ := ih rfl hrest
      exact ⟨r', Transition.run_cons_eq_some.mpr ⟨next, hnext, hr'⟩, rfl⟩

/-- A race that has returned lets the loop go on. -/
theorem step_raceReturned (cfg : DialerConfig) {r : Connect} {rx : Receiver}
    (hphase : d.client.phase = .connecting rx) (hrace : d.race = some r)
    {result : Except String Connection} (hresult : r.result = some result) :
    ∃ d', step cfg d .raceReturned = some d' ∧
      ((∃ conn, result = .ok conn) → d'.client.phase = .hello rx) ∧
      ((¬∃ conn, result = .ok conn) → d'.client.phase = .retrying rx) := by
  have hbind : d.race.bind (·.result) = some result := by
    rw [hrace, Option.bind_some, hresult]
  cases result with
  | ok conn =>
      have hloop : loopStep cfg.client d.client .connected = some { d.client with
          phase := .hello rx
          attempt := 0
          backoff := cfg.client.reconnect.initialBackoff } := by
        simp only [loopStep, hphase]
      refine ⟨_, by rw [step, hbind]; simp only [hloop, Option.map_some]; rfl, fun _ => rfl,
        fun hnone => absurd ⟨conn, rfl⟩ hnone⟩
  | error e =>
      have hloop : loopStep cfg.client d.client .connectFailed =
          some { d.client with phase := .retrying rx } := by
        simp only [loopStep, hphase]
      refine ⟨_, by rw [step, hbind]; simp only [hloop, Option.map_some]; rfl, ?_, fun _ => rfl⟩
      rintro ⟨conn, hconn⟩
      cases hconn

/-- A client that connects directly does not stay in the connect select.  However the
handshakes that are running come out, its race can go on to return; and whenever it
does, with the handshakes coming out like this, the client goes on to greet the server
if one of them succeeds, and to its next retry if none does. -/
theorem dialer_leaves_connecting {cfg : DialerConfig} {built : Except String Unit}
    {start d : Dialer} (hstart : Dialer.start cfg built = .ok start) {acts : List DialAction}
    (hrun : run cfg start acts = some d) {rx : Receiver}
    (hphase : d.client.phase = .connecting rx) (hdirect : cfg.proxied = false)
    (outcomes : Nat → Except String Unit) :
    ∃ r, d.race = some r ∧
      (∃ more d', Agrees outcomes more ∧
        run cfg d (more.map .race ++ [.raceReturned]) = some d') ∧
      ∀ more d', Agrees outcomes more →
        run cfg d (more.map .race ++ [.raceReturned]) = some d' →
        (Connects r outcomes → d'.client.phase = .hello rx) ∧
        (¬Connects r outcomes → d'.client.phase = .retrying rx) := by
  have h := run_lawful (start_lawful hstart).1 hrun
  obtain ⟨r, hrace⟩ := Option.isSome_iff_exists.mp
    (h.racing (by rw [hphase]; rfl) hdirect)
  obtain ⟨-, before, dial, raceActs, hbefore, -, hraceRun⟩ := h.race r hrace
  refine ⟨r, hrace, ?_, ?_⟩
  · obtain ⟨more, r', result, hagrees, hmore, hresult⟩ : ∃ more r' result,
        Agrees outcomes more ∧ HappyEyeballs.run r more = some r' ∧ r'.result = some result := by
      cases hopen : r.result with
      | some result => exact ⟨[], r, result, by simp [Agrees], rfl, hopen⟩
      | none =>
          exact exists_return (run_sound hbefore hraceRun) (run_past hraceRun) hopen outcomes
    obtain ⟨d', hstep, -⟩ := step_raceReturned cfg (d := { d with race := some r' }) hphase rfl
      hresult
    exact ⟨more, d', hagrees,
      Transition.run_concat_eq_some.mpr ⟨_, run_race cfg hrace hmore, hstep⟩⟩
  · intro more d' hagrees hmore
    obtain ⟨mid, hraced, hreturned⟩ := Transition.run_concat_eq_some.mp hmore
    obtain ⟨r', hr', rfl⟩ := race_of_run hrace hraced
    obtain ⟨result, hresult⟩ : ∃ result, r'.result = some result := by
      cases hresult : r'.result with
      | some result => exact ⟨result, rfl⟩
      | none => simp [step, hresult] at hreturned
    obtain ⟨d'', hstep, hok, herror⟩ := step_raceReturned cfg (d := { d with race := some r' })
      hphase rfl hresult
    cases hstep.symm.trans hreturned
    rw [← connects_iff hagrees hr' hresult]
    exact ⟨hok, herror⟩

/-- If both handshakes fail the client goes on to its next retry. -/
theorem dialer_leaves_connecting_sample :
    ∃ d rx more d', run sampleConfig sampleDialer [.dial sampleDial] = some d ∧
      d.client.phase = .connecting rx ∧ Agrees (fun _ => .error "refused") more ∧
      run sampleConfig d (more.map .race ++ [.raceReturned]) = some d' ∧
      d'.client.phase = .retrying rx := by
  have hstart : Dialer.start sampleConfig (.ok ()) = .ok sampleDialer := rfl
  obtain ⟨d, hrun⟩ : ∃ d, run sampleConfig sampleDialer [.dial sampleDial] = some d := ⟨_, rfl⟩
  have hphase : d.client.phase = .connecting ⟨0⟩ := by
    cases hrun
    rfl
  obtain ⟨r, hrace, ⟨more, d', hagrees, hmore⟩, hleaves⟩ :=
    dialer_leaves_connecting hstart hrun hphase rfl fun _ => .error "refused"
  refine ⟨d, ⟨0⟩, more, d', hrun, hphase, hagrees, hmore, (hleaves more d' hagrees hmore).2 ?_⟩
  cases hrun
  cases hrace
  rintro (⟨conn, hconn⟩ | ⟨-, k, f, hf, -, hok⟩)
  · cases hconn
  · have hnone : f.value = none := by
      rcases k with _ | _ | k <;> cases hf <;> rfl
    rw [hnone] at hok
    cases hok

end Connecting
end Rusnel
