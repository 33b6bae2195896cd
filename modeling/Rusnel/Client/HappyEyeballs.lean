import Rusnel.Foundation.Race
import Rusnel.Foundation.SocketText
import Rusnel.Foundation.Transition
import Rusnel.Config.Client

/-!
# Connecting to several addresses

{lit}`happy_eyeballs_connect` starts a QUIC handshake to every address of the
server and looks at them one after the other, each a quarter of a second after the
one before, until one has succeeded.  The handshakes run from endpoints of a pool
that keeps one socket for each address family over all attempts.

What the system answers is an input: whether a socket can be bound, whether a
handshake can be started, and when and how it comes out.

Main results:

- Theorem {lit}`launch_covers`: every address is started or noted as failed, on an
  endpoint of its own family.
- Theorem {lit}`happy_eyeballs_outcome`: what is returned, and when an error is.
- Theorem {lit}`happy_eyeballs_earliest`: polled promptly, the first success wins.
- Theorem {lit}`happy_eyeballs_returns`: once the handshakes come out, the race
  can return, and it does so with a connection exactly if one of them succeeds.
-/

namespace Rusnel
namespace HappyEyeballs

open Net Race Config

/-! ## Endpoints -/

/-- A QUIC endpoint: which of those built so far, and the address its socket was
bound to. -/
structure Endpoint where
  serial : Nat
  bind : SocketAddr
deriving DecidableEq, Repr

/-- The wildcard address of the server's family. -/
def bindAddr : SocketAddr → SocketAddr
  | .v4 _ _ => .v4 .unspecified 0
  | .v6 _ _ _ _ => .v6 .unspecified 0 0 0

/-- {lit}`built` is what reading the TLS files and binding the socket come to. -/
def createClientEndpoint (serial : Nat) (addr : SocketAddr) (built : Except String Unit) :
    Except String Endpoint :=
  match built with
  | .ok () => .ok ⟨serial, bindAddr addr⟩
  | .error e => .error e

/-- The endpoints, one for each family, and how many were built. -/
structure EndpointPool where
  v4 : Option Endpoint
  v6 : Option Endpoint
  built : Nat
deriving DecidableEq, Repr

variable {pool : EndpointPool} {addr : SocketAddr}

namespace EndpointPool

def empty : EndpointPool where
  v4 := none
  v6 := none
  built := 0

/-- The slot of an address's family. -/
def slot (pool : EndpointPool) (addr : SocketAddr) : Option Endpoint :=
  if isIpv6 addr then pool.v6 else pool.v4

def fill (pool : EndpointPool) (addr : SocketAddr) (endpoint : Endpoint) : EndpointPool :=
  if isIpv6 addr then { pool with v6 := some endpoint, built := pool.built + 1 }
  else { pool with v4 := some endpoint, built := pool.built + 1 }

/-- The endpoint of an address's family, built when it is first asked for. -/
def getFor (pool : EndpointPool) (addr : SocketAddr) (built : Except String Unit) :
    Except String (Endpoint × EndpointPool) :=
  match pool.slot addr with
  | some endpoint => .ok (endpoint, pool)
  | none =>
      match createClientEndpoint pool.built addr built with
      | .ok endpoint => .ok (endpoint, pool.fill addr endpoint)
      | .error e => .error e

/-- The pool of a client: the endpoint of the primary address is built at once. -/
def new (primary : SocketAddr) (built : Except String Unit) : Except String EndpointPool :=
  match createClientEndpoint 0 primary built with
  | .ok endpoint => .ok (empty.fill primary endpoint)
  | .error e => .error e

/-- Each slot holds an endpoint of its family, and no others were built. -/
structure WellFormed (pool : EndpointPool) : Prop where
  v4 : ∀ endpoint, pool.v4 = some endpoint → isIpv6 endpoint.bind = false
  v6 : ∀ endpoint, pool.v6 = some endpoint → isIpv6 endpoint.bind = true
  built : pool.built = pool.v4.toList.length + pool.v6.toList.length

theorem WellFormed.built_le (h : pool.WellFormed) : pool.built ≤ 2 := by
  have hbuilt := h.built
  cases hv4 : pool.v4 <;> cases hv6 : pool.v6 <;> simp [hv4, hv6] at hbuilt <;> omega

theorem isIpv6_bindAddr (addr : SocketAddr) : isIpv6 (bindAddr addr) = isIpv6 addr := by
  cases addr <;> rfl

theorem empty_wellFormed : empty.WellFormed where
  v4 := by simp [empty]
  v6 := by simp [empty]
  built := rfl

theorem WellFormed.slot (h : pool.WellFormed) {endpoint : Endpoint}
    (hslot : pool.slot addr = some endpoint) : isIpv6 endpoint.bind = isIpv6 addr := by
  unfold EndpointPool.slot at hslot
  split at hslot
  · rename_i hfamily
    rw [hfamily, h.v6 endpoint hslot]
  · rename_i hfamily
    rw [Bool.not_eq_true] at hfamily
    rw [hfamily, h.v4 endpoint hslot]

/-- A slot that is empty can be filled with an endpoint of its family. -/
theorem WellFormed.fill (h : pool.WellFormed) (hslot : pool.slot addr = none) (serial : Nat) :
    (pool.fill addr ⟨serial, bindAddr addr⟩).WellFormed := by
  have hbuilt := h.built
  unfold EndpointPool.slot at hslot
  unfold EndpointPool.fill
  split at hslot
  · rename_i hfamily
    rw [if_pos hfamily]
    refine ⟨h.v4, ?_, ?_⟩
    · rintro endpoint ⟨⟩
      rw [isIpv6_bindAddr, hfamily]
    · simp [hbuilt, hslot]
  · rename_i hfamily
    rw [if_neg hfamily]
    refine ⟨?_, h.v6, ?_⟩
    · rintro endpoint ⟨⟩
      rw [isIpv6_bindAddr]
      simpa using hfamily
    · simp [hbuilt, hslot]
      omega

theorem slot_fill_self (pool : EndpointPool) (addr : SocketAddr) (endpoint : Endpoint) :
    (pool.fill addr endpoint).slot addr = some endpoint := by
  unfold fill slot
  split <;> simp_all

/-- Filling an empty slot takes no endpoint away. -/
theorem slot_fill_of_some {addr other : SocketAddr} {kept : Endpoint}
    (hslot : pool.slot addr = none) (hother : pool.slot other = some kept) (endpoint : Endpoint) :
    (pool.fill addr endpoint).slot other = some kept := by
  unfold slot at hslot hother ⊢
  unfold fill
  split at hslot <;> split at hother <;> simp_all

/-- What asking for an endpoint does. -/
theorem getFor_ok {pool pool' : EndpointPool} (h : pool.WellFormed) {built : Except String Unit}
    {endpoint : Endpoint} (hget : pool.getFor addr built = .ok (endpoint, pool')) :
    pool'.WellFormed ∧ pool'.slot addr = some endpoint ∧
      ∀ other kept, pool.slot other = some kept → pool'.slot other = some kept := by
  unfold getFor at hget
  split at hget
  · rename_i hslot
    cases hget
    exact ⟨h, hslot, fun _ _ hkept => hkept⟩
  · rename_i hslot
    cases built with
    | error e => cases hget
    | ok _ =>
        cases hget
        exact ⟨h.fill hslot _, slot_fill_self pool addr _,
          fun other kept hkept => slot_fill_of_some hslot hkept _⟩

theorem new_wellFormed {primary : SocketAddr} {built : Except String Unit}
    (hnew : new primary built = .ok pool) : pool.WellFormed := by
  cases built with
  | error e => cases hnew
  | ok _ =>
      cases hnew
      refine empty_wellFormed.fill ?_ 0
      unfold EndpointPool.slot
      split <;> rfl

end EndpointPool

/-! ## Starting the handshakes -/

/-- What the system answers when an address is dialled: whether an endpoint of its
family can be built, if there is none, and whether the handshake can be started. -/
structure Dial where
  endpoint : Except String Unit
  connect : Except String Unit
deriving DecidableEq, Repr

/-- A handshake that was started. -/
structure Attempt where
  idx : Nat
  addr : SocketAddr
  endpoint : Endpoint
deriving DecidableEq, Repr

/-- A connection, by its peer and the endpoint it runs on. -/
structure Connection where
  peer : SocketAddr
  endpoint : Endpoint
deriving DecidableEq, Repr

/-- How long, in milliseconds, the attempt at a position is not looked at. -/
def stagger (idx : Nat) : Nat :=
  250 * (idx % 2 ^ 32)

/-- An error as it is noted, with the address it is about. -/
def noted (addr : SocketAddr) (e : String) : String :=
  String.ofList addr.display ++ ": " ++ e

/-- What the loop that starts the handshakes leaves. -/
structure Launched where
  pool : EndpointPool
  attempts : List Attempt
  lastError : Option String

/-- The loop that starts the handshakes, from a position on. -/
def launch (dial : Nat → Dial) (idx : Nat) (pool : EndpointPool) (lastError : Option String) :
    List SocketAddr → Launched
  | [] => ⟨pool, [], lastError⟩
  | addr :: addrs =>
      match pool.getFor addr (dial idx).endpoint with
      | .error e =>
          launch dial (idx + 1) pool (some (noted addr ("failed to build endpoint: " ++ e))) addrs
      | .ok (endpoint, pool) =>
          match (dial idx).connect with
          | .error e => launch dial (idx + 1) pool (some (noted addr e)) addrs
          | .ok () =>
              let rest := launch dial (idx + 1) pool lastError addrs
              { rest with attempts := ⟨idx, addr, endpoint⟩ :: rest.attempts }

/-- The text is an error noted about one of the addresses. -/
def Noted (addrs : List SocketAddr) (text : String) : Prop :=
  ∃ addr ∈ addrs, ∃ e, text = noted addr e

/-- The addresses from a position on were started or noted. -/
structure Covers (dial : Nat → Dial) (idx : Nat) (pool : EndpointPool)
    (before : Option String) (addrs : List SocketAddr) (l : Launched) : Prop where
  wellFormed : l.pool.WellFormed
  kept : ∀ other endpoint, pool.slot other = some endpoint → l.pool.slot other = some endpoint
  /-- An attempt is made to the address at its position, on the pool's endpoint of
  its family. -/
  attempt : ∀ a ∈ l.attempts, idx ≤ a.idx ∧ addrs[a.idx - idx]? = some a.addr ∧
    l.pool.slot a.addr = some a.endpoint ∧ (dial a.idx).connect = .ok ()
  /-- An address without one could not be started. -/
  started : ∀ i addr, addrs[i]? = some addr → (∃ a ∈ l.attempts, a.idx = idx + i) ∨
    ((∃ e, (dial (idx + i)).endpoint = .error e) ∨ ∃ e, (dial (idx + i)).connect = .error e)
  noted : ∀ text, l.lastError = some text → Noted addrs text ∨ before = some text
  /-- If nothing is noted every address was started. -/
  complete : l.lastError = none → before = none ∧ l.attempts.length = addrs.length

variable {addrs : List SocketAddr}

theorem Noted.cons {text : String} (h : Noted addrs text) : Noted (addr :: addrs) text := by
  obtain ⟨other, hmem, e, rfl⟩ := h
  exact ⟨other, List.mem_cons_of_mem _ hmem, e, rfl⟩

theorem noted_head (addr : SocketAddr) (addrs : List SocketAddr) (e : String) :
    Noted (addr :: addrs) (noted addr e) :=
  ⟨addr, List.mem_cons_self, e, rfl⟩

section Covers

variable {dial : Nat → Dial} {idx : Nat} {pool pool' : EndpointPool} {before : Option String}
  {addr : SocketAddr} {addrs : List SocketAddr} {l : Launched}

theorem Covers.attempt_tail (h : Covers dial (idx + 1) pool before addrs l) {a : Attempt}
    (ha : a ∈ l.attempts) : idx ≤ a.idx ∧ (addr :: addrs)[a.idx - idx]? = some a.addr ∧
      l.pool.slot a.addr = some a.endpoint ∧ (dial a.idx).connect = .ok () := by
  obtain ⟨hle, haddr, hslot, hconnect⟩ := h.attempt a ha
  refine ⟨by omega, ?_, hslot, hconnect⟩
  rw [show a.idx - idx = a.idx - (idx + 1) + 1 by omega, List.getElem?_cons_succ]
  exact haddr

theorem Covers.started_tail (h : Covers dial (idx + 1) pool before addrs l) {i : Nat}
    {other : SocketAddr} (hi : (addr :: addrs)[i + 1]? = some other) :
    (∃ a ∈ l.attempts, a.idx = idx + (i + 1)) ∨
      ((∃ e, (dial (idx + (i + 1))).endpoint = .error e) ∨
        ∃ e, (dial (idx + (i + 1))).connect = .error e) := by
  have hrest := h.started i other (by simpa using hi)
  rwa [show idx + 1 + i = idx + (i + 1) by omega] at hrest

/-- An address that could not be started is noted. -/
theorem Covers.skipped {e : String}
    (h : Covers dial (idx + 1) pool (some (HappyEyeballs.noted addr e)) addrs l)
    (hfailed : (∃ e, (dial idx).endpoint = .error e) ∨ ∃ e, (dial idx).connect = .error e)
    (hkept : ∀ other endpoint, pool'.slot other = some endpoint →
      pool.slot other = some endpoint) :
    Covers dial idx pool' before (addr :: addrs) l where
  wellFormed := h.wellFormed
  kept other endpoint hslot := h.kept other endpoint (hkept other endpoint hslot)
  attempt a ha := h.attempt_tail ha
  started i other hi := by
    cases i with
    | zero => exact .inr hfailed
    | succ i => exact h.started_tail hi
  noted text htext := by
    rcases h.noted text htext with hrest | hhead
    · exact .inl hrest.cons
    · cases hhead
      exact .inl (noted_head addr addrs e)
  complete hnone := by
    cases (h.complete hnone).1

/-- An address that was started is the first attempt. -/
theorem Covers.launched {endpoint : Endpoint} (h : Covers dial (idx + 1) pool before addrs l)
    (hconnect : (dial idx).connect = .ok ()) (hslot : pool.slot addr = some endpoint)
    (hkept : ∀ other endpoint, pool'.slot other = some endpoint →
      pool.slot other = some endpoint) :
    Covers dial idx pool' before (addr :: addrs)
      { l with attempts := ⟨idx, addr, endpoint⟩ :: l.attempts } where
  wellFormed := h.wellFormed
  kept other endpoint hslot := h.kept other endpoint (hkept other endpoint hslot)
  attempt a ha := by
    rcases List.mem_cons.mp ha with rfl | htail
    · exact ⟨Nat.le_refl _, by simp, h.kept _ _ hslot, hconnect⟩
    · exact h.attempt_tail htail
  started i other hi := by
    cases i with
    | zero => exact .inl ⟨_, List.mem_cons_self, rfl⟩
    | succ i =>
        rcases h.started_tail hi with ⟨a, ha, haidx⟩ | hfailed
        · exact .inl ⟨a, List.mem_cons_of_mem _ ha, haidx⟩
        · exact .inr hfailed
  noted text htext := (h.noted text htext).imp_left Noted.cons
  complete hnone := by
    obtain ⟨hbefore, hlength⟩ := h.complete hnone
    exact ⟨hbefore, congrArg Nat.succ hlength⟩

end Covers

/-- Every address is started on the pool's endpoint of its family, or it could not
be and is noted. -/
theorem launch_covers (dial : Nat → Dial) (addrs : List SocketAddr) (hpool : pool.WellFormed)
    (idx : Nat) (before : Option String) :
    Covers dial idx pool before addrs (launch dial idx pool before addrs) := by
  induction addrs generalizing idx pool before with
  | nil =>
      refine ⟨hpool, fun _ _ h => h, by simp [launch], by simp, fun text h => .inr h,
        fun h => ⟨h, rfl⟩⟩
  | cons addr addrs ih =>
      rw [launch]
      cases hget : pool.getFor addr (dial idx).endpoint with
      | error e =>
          refine (ih hpool (idx + 1) _).skipped (.inl ?_) fun _ _ h => h
          unfold EndpointPool.getFor at hget
          split at hget
          · cases hget
          · rcases hend : (dial idx).endpoint with e' | ⟨⟩
            · exact ⟨e', rfl⟩
            · rw [hend] at hget
              cases hget
      | ok r =>
          obtain ⟨endpoint, next⟩ := r
          obtain ⟨hnext, hslot, hkept⟩ := EndpointPool.getFor_ok hpool hget
          cases hconnect : (dial idx).connect with
          | error e => exact (ih hnext (idx + 1) _).skipped (.inr ⟨e, hconnect⟩) hkept
          | ok _ => exact (ih hnext (idx + 1) before).launched hconnect hslot hkept

/-! ## The race -/

/-- The race of the handshakes that were started. -/
structure Connect where
  attempts : List Attempt
  race : Pending (Except String Unit)
  lastError : Option String
  result : Option (Except String Connection)
deriving Repr

/-- Start the handshakes and their race. -/
def happyEyeballsConnect (pool : EndpointPool) (addrs : List SocketAddr) (dial : Nat → Dial) :
    EndpointPool × Connect :=
  match addrs with
  | [] => (pool, ⟨[], .start [], none, some (.error "no candidate addresses to connect to")⟩)
  | addrs =>
      let l := launch dial 0 pool none addrs
      (l.pool, ⟨l.attempts, .start (l.attempts.map fun a => stagger a.idx), l.lastError, none⟩)

inductive RaceAction where
  /-- Milliseconds pass. -/
  | tick (ms : Nat)
  /-- A handshake comes out. -/
  | settle (k : Nat) (outcome : Except String Unit)
  /-- The race yields an attempt. -/
  | next (k : Nat)
  /-- The race has yielded all of them. -/
  | exhausted
deriving Repr

/-- The text of the error that the race returns. -/
def allFailed (lastError : Option String) : String :=
  "all candidate addresses failed (last error: " ++ lastError.getD "<none>" ++ ")"

/-- A step of the race while it goes on. -/
def advance (c : Connect) : RaceAction → Option Connect
  | .tick ms => some { c with race := c.race.tick ms }
  | .settle k outcome => (c.race.arrive k outcome).map fun race => { c with race := race }
  | .next k =>
      match c.race.next k, c.attempts[k]? with
      | some (.ok (), race), some a =>
          some { c with race := race, result := some (.ok ⟨a.addr, a.endpoint⟩) }
      | some (.error e, race), some a =>
          some { c with race := race, lastError := some (noted a.addr e) }
      | _, _ => none
  | .exhausted =>
      if c.race.done then some { c with result := some (.error (allFailed c.lastError)) }
      else none

/-- A step of the race, until it has returned. -/
def step (c : Connect) (a : RaceAction) : Option Connect :=
  if c.result = none then advance c a else none

abbrev run (c : Connect) (acts : List RaceAction) : Option Connect :=
  Transition.run step c acts

/-- The steps of the race, each with what enabled it. -/
inductive Step (c : Connect) : RaceAction → Connect → Prop where
  | tick (ms : Nat) : Step c (.tick ms) { c with race := c.race.tick ms }
  | settle (k : Nat) (outcome : Except String Unit) (race : Pending (Except String Unit))
      (harrive : c.race.arrive k outcome = some race) :
      Step c (.settle k outcome) { c with race := race }
  | won (k : Nat) (a : Attempt) (race : Pending (Except String Unit))
      (hnext : c.race.next k = some (.ok (), race)) (ha : c.attempts[k]? = some a) :
      Step c (.next k) { c with race := race, result := some (.ok ⟨a.addr, a.endpoint⟩) }
  | lost (k : Nat) (a : Attempt) (e : String) (race : Pending (Except String Unit))
      (hnext : c.race.next k = some (.error e, race)) (ha : c.attempts[k]? = some a) :
      Step c (.next k) { c with race := race, lastError := some (noted a.addr e) }
  | exhausted (hdone : c.race.done = true) :
      Step c .exhausted { c with result := some (.error (allFailed c.lastError)) }

variable {c c' : Connect}

theorem advance_eq_some {a : RaceAction} : advance c a = some c' ↔ Step c a c' := by
  constructor
  · intro h
    cases a with
    | tick ms => cases h; exact .tick ms
    | settle k outcome =>
        obtain ⟨race, harrive, rfl⟩ := Option.map_eq_some_iff.mp h
        exact .settle k outcome race harrive
    | next k =>
        rw [advance] at h
        split at h
        · rename_i race a hnext ha
          cases h
          exact .won k a race hnext ha
        · rename_i e race a hnext ha
          cases h
          exact .lost k a e race hnext ha
        · cases h
    | exhausted =>
        rw [advance] at h
        split at h
        · rename_i hdone
          cases h
          exact .exhausted hdone
        · cases h
  · intro h
    cases h with
    | tick ms => rfl
    | settle k outcome race harrive => rw [advance, harrive, Option.map_some]
    | won k a race hnext ha => simp only [advance, hnext, ha]
    | lost k a e race hnext ha => simp only [advance, hnext, ha]
    | exhausted hdone => rw [advance, if_pos hdone]

theorem step_eq_some {a : RaceAction} : step c a = some c' ↔ c.result = none ∧ Step c a c' := by
  rw [step, ← advance_eq_some]
  split
  · rename_i hopen
    exact ⟨fun h => ⟨hopen, h⟩, fun h => h.2⟩
  · rename_i hresult
    exact ⟨nofun, fun h => absurd h.1 hresult⟩

/-! ## What is returned -/

/-- The handshake of the attempt at a position succeeded at a time. -/
def Succeeded (c : Connect) (k : Nat) (a : Attempt) (time : Nat) : Prop :=
  c.attempts[k]? = some a ∧ ∃ f, c.race.futures[k]? = some f ∧ f.arrival = some (time, .ok ())

/-- The attempt at a position has succeeded by now, and its turn has come. -/
structure Winner (c : Connect) (k : Nat) (a : Attempt) (f : Future (Except String Unit))
    (time : Nat) : Prop where
  attempt : c.attempts[k]? = some a
  future : c.race.futures[k]? = some f
  arrival : f.arrival = some (time, .ok ())
  ready : Nat.max f.delay time ≤ c.race.now

/-- What a result says about the race. -/
def Explained (addrs : List SocketAddr) (c : Connect) : Except String Connection → Prop
  | .ok conn => ∃ k a f time, Winner c k a f time ∧ conn = ⟨a.addr, a.endpoint⟩
  | .error text =>
      (addrs = [] ∧ text = "no candidate addresses to connect to") ∨
        (∀ f ∈ c.race.futures, ∃ e, f.value = some (.error e)) ∧
          ∃ last, c.lastError = some last ∧ Noted addrs last ∧ text = allFailed (some last)

/-- The race and what it has noted. -/
structure Sound (addrs : List SocketAddr) (l : Launched) (c : Connect) : Prop where
  attempts : c.attempts = l.attempts
  delays : c.race.futures.map (·.delay) = l.attempts.map fun a => stagger a.idx
  noted : ∀ text, c.lastError = some text → Noted addrs text
  /-- While the race goes on, what it has yielded had failed. -/
  failures : c.result = none → ∀ f ∈ c.race.futures, f.yielded = true →
    ∃ e, f.value = some (.error e)
  /-- Nothing is noted only as long as nothing has failed. -/
  silent : c.result = none → c.lastError = none →
    c.race.futures ≠ [] ∧ ∀ f ∈ c.race.futures, f.yielded = false
  explained : ∀ result, c.result = some result → Explained addrs c result

section Sound

variable {addrs : List SocketAddr} {l : Launched} {c : Connect}

theorem Sound.length_eq (h : Sound addrs l c) : c.race.futures.length = c.attempts.length := by
  have hdelays := congrArg List.length h.delays
  rw [h.attempts]
  simpa using hdelays

/-- An attempt is not looked at before its turn. -/
theorem Sound.delay_eq (h : Sound addrs l c) {k : Nat} {a : Attempt}
    {f : Future (Except String Unit)} (ha : c.attempts[k]? = some a)
    (hf : c.race.futures[k]? = some f) : f.delay = stagger a.idx := by
  have hdelay : (c.race.futures.map (·.delay))[k]? = some f.delay := by
    rw [List.getElem?_map, hf, Option.map_some]
  have hstagger : (l.attempts.map fun a => stagger a.idx)[k]? = some (stagger a.idx) := by
    rw [List.getElem?_map, ← h.attempts, ha, Option.map_some]
  rw [h.delays, hstagger] at hdelay
  exact (Option.some.inj hdelay).symm

end Sound

theorem start_sound (hpool : pool.WellFormed) (addrs : List SocketAddr) (dial : Nat → Dial) :
    Sound addrs (launch dial 0 pool none addrs) (happyEyeballsConnect pool addrs dial).2 := by
  cases addrs with
  | nil =>
      refine ⟨rfl, rfl, by simp [happyEyeballsConnect], by simp [happyEyeballsConnect],
        by simp [happyEyeballsConnect], ?_⟩
      rintro result ⟨⟩
      exact .inl ⟨rfl, rfl⟩
  | cons addr addrs =>
      have hcovers := launch_covers dial (addr :: addrs) hpool 0 none
      have hfresh : ∀ f ∈ (Pending.start ((launch dial 0 pool none (addr :: addrs)).attempts.map
          fun a => stagger a.idx) : Pending (Except String Unit)).futures, f.yielded = false := by
        intro f hf
        obtain ⟨delay, _, rfl⟩ := List.mem_map.mp hf
        rfl
      refine ⟨rfl, ?_, ?_, ?_, ?_, nofun⟩
      · simp [happyEyeballsConnect, Pending.start, Future.start]
      · intro text htext
        rcases hcovers.noted text htext with hnoted | hbefore
        · exact hnoted
        · cases hbefore
      · intro _ f hf hyielded
        rw [hfresh f hf] at hyielded
        cases hyielded
      · intro _ hsilent
        have hlength := (hcovers.complete hsilent).2
        refine ⟨fun hnil => ?_, hfresh⟩
        have hzero := congrArg List.length hnil
        simp [happyEyeballsConnect, Pending.start, hlength] at hzero

theorem Step.sound {l : Launched} (hattempt : ∀ a ∈ l.attempts, a.addr ∈ addrs) {act : RaceAction}
    (h : Sound addrs l c) (hopen : c.result = none) (hstep : Step c act c') : Sound addrs l c' := by
  cases hstep with
  | tick ms => exact ⟨h.attempts, h.delays, h.noted, h.failures, h.silent, by simp [hopen]⟩
  | settle k outcome race harrive =>
      obtain ⟨f, hf, harrival, rfl⟩ := Pending.arrive_eq_some.mp harrive
      have hpending : f.yielded = false := by
        by_contra hyielded
        obtain ⟨e, he⟩ := h.failures hopen f (List.mem_of_getElem? hf) (by simpa using hyielded)
        rw [Future.value, harrival] at he
        cases he
      refine ⟨h.attempts, ?_, h.noted, fun _ => ?_, fun _ hsilent => ?_, by simp [hopen]⟩
      · rw [← h.delays]
        exact Indexed.map_set_eq hf _ rfl
      · intro f' hf' hyielded
        rcases List.mem_or_eq_of_mem_set hf' with hold | rfl
        · exact h.failures hopen f' hold hyielded
        · rw [hpending] at hyielded
          cases hyielded
      · refine ⟨by simpa using (h.silent hopen hsilent).1, fun f' hf' => ?_⟩
        rcases List.mem_or_eq_of_mem_set hf' with hold | rfl
        · exact (h.silent hopen hsilent).2 f' hold
        · exact hpending
  | won k a race hnext ha =>
      obtain ⟨f, time, hf, harrival, hyielded, hready, rfl⟩ := Pending.next_eq_some.mp hnext
      refine ⟨h.attempts, ?_, h.noted, by simp, by simp, ?_⟩
      · rw [← h.delays]
        exact Indexed.map_set_eq hf _ rfl
      · rintro result ⟨⟩
        exact ⟨k, a, _, time, ⟨ha, Indexed.getElem?_set_same hf, harrival, hready⟩, rfl⟩
  | lost k a e race hnext ha =>
      obtain ⟨f, time, hf, harrival, hyielded, hready, rfl⟩ := Pending.next_eq_some.mp hnext
      refine ⟨h.attempts, ?_, ?_, fun _ => ?_, by simp, by simp [hopen]⟩
      · rw [← h.delays]
        exact Indexed.map_set_eq hf _ rfl
      · rintro text ⟨⟩
        rw [h.attempts] at ha
        exact ⟨a.addr, hattempt a (List.mem_of_getElem? ha), e, rfl⟩
      · intro f' hf' hyielded'
        rcases List.mem_or_eq_of_mem_set hf' with hold | rfl
        · exact h.failures hopen f' hold hyielded'
        · exact ⟨e, by rw [Future.value, harrival, Option.map_some]⟩
  | exhausted hdone =>
      have hall : ∀ f ∈ c.race.futures, f.yielded = true := by
        simpa [Pending.done] using hdone
      refine ⟨h.attempts, h.delays, h.noted, by simp, by simp, ?_⟩
      rintro result ⟨⟩
      refine .inr ⟨fun f hf => h.failures hopen f hf (hall f hf), ?_⟩
      cases hlast : c.lastError with
      | some last => exact ⟨last, rfl, h.noted last hlast, rfl⟩
      | none =>
          -- With nothing noted there is a future that has not yielded.
          obtain ⟨hne, hfresh⟩ := h.silent hopen hlast
          obtain ⟨f, hf⟩ := List.exists_mem_of_ne_nil _ hne
          have hyielded := hall f hf
          rw [hfresh f hf] at hyielded
          cases hyielded

variable {dial : Nat → Dial}

/-- The attempts of a launch are made to the addresses. -/
theorem launch_addr_mem (hpool : pool.WellFormed) :
    ∀ a ∈ (launch dial 0 pool none addrs).attempts, a.addr ∈ addrs := by
  intro a ha
  exact List.mem_of_getElem? ((launch_covers dial addrs hpool 0 none).attempt a ha).2.1

variable {acts : List RaceAction}

theorem run_sound (hpool : pool.WellFormed)
    (hrun : run (happyEyeballsConnect pool addrs dial).2 acts = some c) :
    Sound addrs (launch dial 0 pool none addrs) c := by
  refine Transition.run_invariant (P := Sound addrs (launch dial 0 pool none addrs)) ?_
    (start_sound hpool addrs dial) hrun
  intro c act c' h hstep
  obtain ⟨hopen, hstep⟩ := step_eq_some.mp hstep
  exact hstep.sound (launch_addr_mem hpool) h hopen

/-- A connection that is returned is one to an address, on the pool's endpoint of its
family. -/
theorem Sound.connection (hpool : pool.WellFormed)
    (h : Sound addrs (launch dial 0 pool none addrs) c) {conn : Connection}
    (hresult : c.result = some (.ok conn)) :
    ∃ k a time, Succeeded c k a time ∧ Nat.max (stagger a.idx) time ≤ c.race.now ∧
      conn = ⟨a.addr, a.endpoint⟩ ∧ addrs[a.idx]? = some a.addr ∧
      (happyEyeballsConnect pool addrs dial).1.slot a.addr = some a.endpoint := by
  obtain ⟨k, a, f, time, hwinner, hconn⟩ := h.explained _ hresult
  have hmem := List.mem_of_getElem? (h.attempts ▸ hwinner.attempt)
  obtain ⟨-, haddr, hslot, -⟩ := (launch_covers dial addrs hpool 0 none).attempt a hmem
  have hpool' : (happyEyeballsConnect pool addrs dial).1 =
      (launch dial 0 pool none addrs).pool := by
    cases addrs <;> rfl
  refine ⟨k, a, time, ⟨hwinner.attempt, f, hwinner.future, hwinner.arrival⟩, ?_, hconn, haddr,
    hpool' ▸ hslot⟩
  rw [← h.delay_eq hwinner.attempt hwinner.future]
  exact hwinner.ready

/-- The pool after a launch. -/
theorem connect_wellFormed (hpool : pool.WellFormed) (addrs : List SocketAddr) (dial : Nat → Dial) :
    (happyEyeballsConnect pool addrs dial).1.WellFormed ∧
      ∀ addr endpoint, pool.slot addr = some endpoint →
        (happyEyeballsConnect pool addrs dial).1.slot addr = some endpoint := by
  have hcovers := launch_covers dial addrs hpool 0 none
  cases addrs with
  | nil => exact ⟨hpool, fun _ _ h => h⟩
  | cons addr addrs => exact ⟨hcovers.wellFormed, hcovers.kept⟩

/-- The address at a position could not be connected to. -/
def AddressFailed (dial : Nat → Dial) (c : Connect) (idx : Nat) : Prop :=
  (∃ e, (dial idx).endpoint = .error e) ∨ (∃ e, (dial idx).connect = .error e) ∨
    ∃ (k : Nat) (a : Attempt) (f : Future (Except String Unit)) (e : String),
      c.attempts[k]? = some a ∧ a.idx = idx ∧ c.race.futures[k]? = some f ∧
        f.value = some (.error e)

/-- Whatever the order of events: a connection that is returned was made to one of
the addresses, on the pool's endpoint of its family, by a handshake that has
succeeded and whose turn had come; and an error is returned only if there are no
addresses, or if none of them could be connected to, with the error that was noted
last, which is about one of the addresses. -/
theorem happy_eyeballs_outcome {pool : EndpointPool} (hpool : pool.WellFormed)
    {addrs : List SocketAddr} {dial : Nat → Dial} {acts : List RaceAction} {c : Connect}
    (hrun : run (happyEyeballsConnect pool addrs dial).2 acts = some c) :
    (∀ conn, c.result = some (.ok conn) → ∃ k a time,
      Succeeded c k a time ∧ Nat.max (stagger a.idx) time ≤ c.race.now ∧
        conn = ⟨a.addr, a.endpoint⟩ ∧ addrs[a.idx]? = some a.addr ∧
        isIpv6 a.endpoint.bind = isIpv6 a.addr ∧
        (happyEyeballsConnect pool addrs dial).1.slot a.addr = some a.endpoint) ∧
    (∀ text, c.result = some (.error text) →
      (addrs = [] ∧ text = "no candidate addresses to connect to") ∨
        (∀ idx < addrs.length, AddressFailed dial c idx) ∧
          ∃ last, c.lastError = some last ∧ Noted addrs last ∧
            text = allFailed (some last)) := by
  have hsound := run_sound hpool hrun
  have hcovers := launch_covers dial addrs hpool 0 none
  constructor
  · intro conn hresult
    obtain ⟨k, a, time, hsucceeded, hready, hconn, haddr, hslot⟩ :=
      hsound.connection hpool hresult
    exact ⟨k, a, time, hsucceeded, hready, hconn, haddr,
      (connect_wellFormed hpool addrs dial).1.slot hslot, hslot⟩
  · intro text hresult
    rcases hsound.explained _ hresult with hempty | ⟨hfailed, hlast⟩
    · exact .inl hempty
    · refine .inr ⟨fun idx hidx => ?_, hlast⟩
      rcases hcovers.started idx addrs[idx] (List.getElem?_eq_getElem hidx) with
        ⟨a, ha, haidx⟩ | hdial | hdial
      · rw [← hsound.attempts] at ha
        obtain ⟨k, hk⟩ := List.mem_iff_getElem?.mp ha
        have hlt : k < c.race.futures.length := by
          rw [hsound.length_eq]
          exact (List.getElem?_eq_some_iff.mp hk).1
        obtain ⟨e, he⟩ := hfailed _ (List.getElem_mem hlt)
        exact .inr (.inr ⟨k, a, _, e, hk, by omega, List.getElem?_eq_getElem hlt, he⟩)
      · rw [Nat.zero_add] at hdial
        exact .inl hdial
      · rw [Nat.zero_add] at hdial
        exact .inr (.inl hdial)

/-- A server with an IPv6 and an IPv4 address. -/
def sampleAddrs : List SocketAddr :=
  [.v6 .localhost 8080 0 0, .v4 .localhost 8080]

/-- Nothing keeps the handshakes from being started. -/
def sampleDial (_ : Nat) : Dial where
  endpoint := .ok ()
  connect := .ok ()

/-- The IPv4 handshake succeeds after 30 ms, the IPv6 one fails after 40 ms. -/
def sampleRace : List RaceAction :=
  [.tick 30, .settle 1 (.ok ()), .tick 10, .settle 0 (.error "timed out"), .next 0, .tick 210,
    .next 1]

/-- The IPv4 connection is returned when its turn has come. -/
theorem happy_eyeballs_outcome_sample :
    ∃ c conn, run (happyEyeballsConnect .empty sampleAddrs sampleDial).2 sampleRace = some c ∧
      c.result = some (.ok conn) ∧
      ∃ k a time, Succeeded c k a time ∧ Nat.max (stagger a.idx) time ≤ 250 ∧
        conn = ⟨a.addr, a.endpoint⟩ := by
  have hcheck : ((run (happyEyeballsConnect .empty sampleAddrs sampleDial).2 sampleRace).any
      fun c => decide (c.result = some (.ok ⟨.v4 .localhost 8080, 1, .v4 .unspecified 0⟩) ∧
        c.race.now = 250)) = true := by
    decide +kernel
  obtain ⟨c, hrun, hc⟩ := (Option.any_eq_true _ _).mp hcheck
  obtain ⟨hresult, hnow⟩ := of_decide_eq_true hc
  obtain ⟨k, a, time, hsucceeded, hle, hconn, -⟩ :=
    (happy_eyeballs_outcome EndpointPool.empty_wellFormed hrun).1 _ hresult
  exact ⟨c, _, hrun, hresult, k, a, time, hsucceeded, hnow ▸ hle, hconn⟩

/-! ## Prompt polling -/

/-- Time does not pass an attempt that is ready. -/
def PromptTick (c : Connect) : RaceAction → Prop
  | .tick ms => c.race.Prompt ms
  | _ => True

instance (c : Connect) (a : RaceAction) : Decidable (PromptTick c a) :=
  match a with
  | .tick ms => inferInstanceAs (Decidable (c.race.Prompt ms))
  | .settle _ _ => isTrue trivial
  | .next _ => isTrue trivial
  | .exhausted => isTrue trivial

/-- The attempt is returned at the time it is ready, and no success is ready before
it. -/
structure Earliest (c : Connect) (k : Nat) (a : Attempt) (f : Future (Except String Unit)) :
    Prop where
  attempt : c.attempts[k]? = some a
  future : c.race.futures[k]? = some f
  value : f.value = some (.ok ())
  ready : f.readyAt = some c.race.now
  first : ∀ g ∈ c.race.futures, g.value = some (.ok ()) → ∀ time ∈ g.readyAt, c.race.now ≤ time

/-- The race so far, polled promptly. -/
structure OnTime (c : Connect) : Prop where
  punctual : c.result = none → c.race.Punctual
  earliest : ∀ conn, c.result = some (.ok conn) →
    ∃ k a f, Earliest c k a f ∧ conn = ⟨a.addr, a.endpoint⟩

theorem Step.onTime {l : Launched} {act : RaceAction} (hsound : Sound addrs l c)
    (hopen : c.result = none) (h : OnTime c) (hprompt : PromptTick c act) (hstep : Step c act c') :
    OnTime c' := by
  have hpunctual := h.punctual hopen
  cases hstep with
  | tick ms => exact ⟨fun _ => hprompt, by simp [hopen]⟩
  | settle k outcome race harrive => exact ⟨fun _ => hpunctual.arrive harrive, by simp [hopen]⟩
  | lost k a e race hnext ha => exact ⟨fun _ => hpunctual.next hnext, by simp [hopen]⟩
  | exhausted hdone => exact ⟨by simp, by simp⟩
  | won k a race hnext ha =>
      refine ⟨by simp, ?_⟩
      rintro conn ⟨⟩
      obtain ⟨f, hf, hvalue, hready, hfirst⟩ := hpunctual.yields_earliest hnext
      obtain ⟨f', time, hf', -, -, -, rfl⟩ := Pending.next_eq_some.mp hnext
      cases hf.symm.trans hf'
      refine ⟨k, a, { f with yielded := true }, ⟨ha, Indexed.getElem?_set_same hf, hvalue, hready,
        fun g hg hok at_ hat => ?_⟩, rfl⟩
      rcases List.mem_or_eq_of_mem_set hg with hold | rfl
      · -- A success that was there before had not been yielded.
        cases hyielded : g.yielded with
        | false => exact hfirst g hold hyielded at_ hat
        | true =>
            obtain ⟨e, he⟩ := hsound.failures hopen g hold hyielded
            rw [hok] at he
            cases he
      · cases hready.symm.trans hat
        exact Nat.le_refl _

theorem start_onTime (pool : EndpointPool) (addrs : List SocketAddr) (dial : Nat → Dial) :
    OnTime (happyEyeballsConnect pool addrs dial).2 := by
  cases addrs with
  | nil => exact ⟨by simp [happyEyeballsConnect], by simp [happyEyeballsConnect]⟩
  | cons addr addrs =>
      exact ⟨fun _ => Pending.start_punctual _, by simp [happyEyeballsConnect]⟩

/-- If the race is polled promptly, the connection is returned at the moment its
attempt is ready, and every handshake that has succeeded, on any address, is ready
no earlier: an address that connects before the next one has its turn wins. -/
theorem happy_eyeballs_earliest {pool : EndpointPool} (hpool : pool.WellFormed)
    {addrs : List SocketAddr} {dial : Nat → Dial} {acts : List RaceAction} {c : Connect}
    (hrun : run (happyEyeballsConnect pool addrs dial).2 acts = some c)
    (hprompt : Transition.Guarded step PromptTick (happyEyeballsConnect pool addrs dial).2 acts)
    {conn : Connection} (hresult : c.result = some (.ok conn)) :
    ∃ k a time, Succeeded c k a time ∧ conn = ⟨a.addr, a.endpoint⟩ ∧
      c.race.now = Nat.max (stagger a.idx) time ∧
      ∀ j b s, Succeeded c j b s → c.race.now ≤ Nat.max (stagger b.idx) s := by
  have hboth : Sound addrs (launch dial 0 pool none addrs) c ∧ OnTime c := by
    refine Transition.guarded_invariant_within (B := fun _ => True)
      (P := fun c => Sound addrs (launch dial 0 pool none addrs) c ∧ OnTime c)
      (fun _ _ _ _ _ => trivial) ?_ ⟨start_sound hpool addrs dial, start_onTime pool addrs dial⟩
      hprompt hrun trivial
    rintro c act c' ⟨hsound, htime⟩ hprompt - hstep
    obtain ⟨hopen, hstep⟩ := step_eq_some.mp hstep
    exact ⟨hstep.sound (launch_addr_mem hpool) hsound hopen,
      hstep.onTime hsound hopen htime hprompt⟩
  obtain ⟨hsound, htime⟩ := hboth
  obtain ⟨k, a, f, h, hconn⟩ := htime.earliest conn hresult
  have hready : ∀ {j : Nat} {b : Attempt} {s : Nat}, Succeeded c j b s →
      ∃ g ∈ c.race.futures, c.race.futures[j]? = some g ∧ g.value = some (.ok ()) ∧
        g.readyAt = some (Nat.max (stagger b.idx) s) := by
    rintro j b s ⟨hb, g, hg, harrival⟩
    refine ⟨g, List.mem_of_getElem? hg, hg, ?_, ?_⟩
    · rw [Future.value, harrival, Option.map_some]
    · rw [Future.readyAt, harrival, Option.map_some, hsound.delay_eq hb hg]
  obtain ⟨⟨time, value⟩, harrival, hvalue⟩ := Option.map_eq_some_iff.mp h.value
  cases hvalue
  have hsucceeded : Succeeded c k a time := ⟨h.attempt, f, h.future, harrival⟩
  refine ⟨k, a, time, hsucceeded, hconn, ?_, fun j b s hother => ?_⟩
  · obtain ⟨g, -, hg, -, hat⟩ := hready hsucceeded
    cases h.future.symm.trans hg
    exact Option.some.inj (h.ready.symm.trans hat)
  · obtain ⟨g, hmem, -, hvalue, hat⟩ := hready hother
    exact h.first g hmem hvalue _ hat

/-- The IPv4 connection is returned after 250 ms although its handshake took 30 ms. -/
theorem happy_eyeballs_earliest_sample :
    ∃ c conn, run (happyEyeballsConnect .empty sampleAddrs sampleDial).2 sampleRace = some c ∧
      c.result = some (.ok conn) ∧
      ∀ j b s, Succeeded c j b s → 250 ≤ Nat.max (stagger b.idx) s := by
  have hprompt : Transition.Guarded step PromptTick
      (happyEyeballsConnect .empty sampleAddrs sampleDial).2 sampleRace := by
    decide +kernel
  have hcheck : ((run (happyEyeballsConnect .empty sampleAddrs sampleDial).2 sampleRace).any
      fun c => decide (c.result = some (.ok ⟨.v4 .localhost 8080, 1, .v4 .unspecified 0⟩) ∧
        c.race.now = 250)) = true := by
    decide +kernel
  obtain ⟨c, hrun, hc⟩ := (Option.any_eq_true _ _).mp hcheck
  obtain ⟨hresult, hnow⟩ := of_decide_eq_true hc
  obtain ⟨k, a, time, -, -, -, hfirst⟩ :=
    happy_eyeballs_earliest EndpointPool.empty_wellFormed hrun hprompt hresult
  exact ⟨c, _, hrun, hresult, fun j b s hother => hnow ▸ hfirst j b s hother⟩

/-! ## The race returns -/

theorem le_foldr_max {n : Nat} {ns : List Nat} (h : n ∈ ns) : n ≤ ns.foldr Nat.max 0 := by
  induction ns with
  | nil => cases h
  | cons m ns ih =>
      rw [List.foldr_cons]
      rcases List.mem_cons.mp h with rfl | hmem
      · exact Nat.le_max_left _ _
      · exact Nat.le_trans (ih hmem) (Nat.le_max_right _ _)

/-- A handshake that has not been looked at has succeeded, or does if it comes out
as given. -/
def Promising (c : Connect) (outcomes : Nat → Except String Unit) : Prop :=
  ∃ (k : Nat) (f : Future (Except String Unit)), c.race.futures[k]? = some f ∧
    f.yielded = false ∧ f.value.getD (outcomes k) = .ok ()

/-- The handshakes that come out in these steps do so as given. -/
def Agrees (outcomes : Nat → Except String Unit) (acts : List RaceAction) : Prop :=
  ∀ k outcome, .settle k outcome ∈ acts → outcome = outcomes k

variable {outcomes : Nat → Except String Unit}

/-- A handshake that is looked at, or comes out as given, is as promising as before. -/
theorem promising_set {k : Nat} {f g : Future (Except String Unit)}
    (hf : c.race.futures[k]? = some f) (hset : c'.race.futures = c.race.futures.set k g)
    (hiff : g.yielded = false ∧ g.value.getD (outcomes k) = .ok () ↔
      f.yielded = false ∧ f.value.getD (outcomes k) = .ok ()) :
    Promising c' outcomes ↔ Promising c outcomes := by
  constructor
  · rintro ⟨j, h, hj, hopen⟩
    rw [hset] at hj
    rcases Indexed.getElem?_set_cases hj with ⟨rfl, rfl⟩ | ⟨hne, hold⟩
    · exact ⟨j, f, hf, hiff.mp hopen⟩
    · exact ⟨j, h, hold, hopen⟩
  · rintro ⟨j, h, hj, hopen⟩
    by_cases hk : k = j
    · subst hk
      cases hf.symm.trans hj
      exact ⟨k, g, hset ▸ Indexed.getElem?_set_same hf, hiff.mpr hopen⟩
    · exact ⟨j, h, by rw [hset, List.getElem?_set_ne hk, hj], hopen⟩

/-- As long as the race goes on nothing changes about whether it is promising, and when
it returns it does so with a connection exactly if it was. -/
theorem Step.promising {act : RaceAction}
    (hact : ∀ k outcome, act = .settle k outcome → outcome = outcomes k) (hopen : c.result = none)
    (hstep : Step c act c') :
    (c'.result = none → (Promising c' outcomes ↔ Promising c outcomes)) ∧
      ∀ result, c'.result = some result →
        ((∃ conn, result = .ok conn) ↔ Promising c outcomes) := by
  cases hstep with
  | tick ms => exact ⟨fun _ => Iff.rfl, by simp [hopen]⟩
  | settle k outcome race harrive =>
      obtain ⟨f, hf, harrival, rfl⟩ := Pending.arrive_eq_some.mp harrive
      refine ⟨fun _ => promising_set hf rfl ?_, by simp [hopen]⟩
      simp [Future.value, harrival, hact k outcome rfl]
  | lost k a e race hnext ha =>
      obtain ⟨f, time, hf, harrival, hyielded, hready, rfl⟩ := Pending.next_eq_some.mp hnext
      refine ⟨fun _ => promising_set hf rfl ?_, by simp [hopen]⟩
      simp [Future.value, harrival]
  | won k a race hnext ha =>
      obtain ⟨f, time, hf, harrival, hyielded, hready, rfl⟩ := Pending.next_eq_some.mp hnext
      refine ⟨by simp, ?_⟩
      rintro result ⟨⟩
      refine iff_of_true ⟨_, rfl⟩ ⟨k, f, hf, hyielded, ?_⟩
      rw [Future.value, harrival]
      rfl
  | exhausted hdone =>
      refine ⟨by simp, ?_⟩
      rintro result ⟨⟩
      refine iff_of_false (by simp) ?_
      rintro ⟨k, f, hf, hyielded, -⟩
      have hall : ∀ f ∈ c.race.futures, f.yielded = true := by simpa [Pending.done] using hdone
      rw [hall f (List.mem_of_getElem? hf)] at hyielded
      cases hyielded

/-- A race that has returned goes no further. -/
theorem run_of_returned {result : Except String Connection} (hresult : c.result = some result)
    (hrun : run c acts = some c') : c' = c := by
  cases acts with
  | nil =>
      cases hrun
      rfl
  | cons a acts =>
      obtain ⟨mid, hmid, -⟩ := Transition.run_cons_eq_some.mp hrun
      cases hresult.symm.trans (step_eq_some.mp hmid).1

/-- If its handshakes come out as given, a race that returns does so with a connection
exactly if one of those it has not looked at succeeds. -/
theorem run_promising (hacts : Agrees outcomes acts) (hopen : c.result = none)
    (hrun : run c acts = some c') {result : Except String Connection}
    (hresult : c'.result = some result) : (∃ conn, result = .ok conn) ↔ Promising c outcomes := by
  induction acts generalizing c with
  | nil =>
      cases hrun
      cases hopen.symm.trans hresult
  | cons a acts ih =>
      obtain ⟨mid, hmid, hrest⟩ := Transition.run_cons_eq_some.mp hrun
      obtain ⟨hgoes, hreturns⟩ := (step_eq_some.mp hmid).2.promising
        (fun k outcome ha => hacts k outcome (ha ▸ List.mem_cons_self)) hopen
      cases hresult' : mid.result with
      | none =>
          rw [← hgoes hresult']
          exact ih (fun k outcome h => hacts k outcome (List.mem_cons_of_mem _ h)) hresult' hrest
      | some result' =>
          cases run_of_returned hresult' hrest
          exact hreturns result hresult

/-- Every attempt has its turn. -/
structure Due (c : Connect) : Prop where
  opened : c.result = none
  length_eq : c.race.futures.length = c.attempts.length
  past : c.race.Past
  delays : ∀ f ∈ c.race.futures, f.delay ≤ c.race.now

section Returns

variable {c : Connect} {k : Nat} {f : Future (Except String Unit)}

/-- A future that was looked at. -/
def looked (f : Future (Except String Unit)) (time : Nat) (outcome : Except String Unit) :
    Future (Except String Unit) :=
  { f with arrival := some (time, outcome), yielded := true }

/-- An attempt whose turn has come is looked at once its handshake has come out. -/
theorem Due.look (h : Due c) (hf : c.race.futures[k]? = some f) (hyielded : f.yielded = false)
    (outcomes : Nat → Except String Unit) :
    ∃ acts mid a time race, Agrees outcomes acts ∧ run c acts = some mid ∧ mid.result = none ∧
      mid.attempts = c.attempts ∧ c.attempts[k]? = some a ∧ time ≤ c.race.now ∧
      mid.race.next k = some (f.value.getD (outcomes k), race) ∧
      race = { c.race with
        futures := c.race.futures.set k (looked f time (f.value.getD (outcomes k))) } := by
  have hlt : k < c.attempts.length := h.length_eq ▸ (List.getElem?_eq_some_iff.mp hf).1
  have hdelay := h.delays f (List.mem_of_getElem? hf)
  cases harrival : f.arrival with
  | some arrival =>
      obtain ⟨time, value⟩ := arrival
      have hpast := h.past f (List.mem_of_getElem? hf) _ harrival
      have hvalue : f.value.getD (outcomes k) = value := by rw [Future.value, harrival]; rfl
      refine ⟨[], c, c.attempts[k], time, _, by simp [Agrees], rfl, h.opened, rfl,
        List.getElem?_eq_getElem hlt, hpast, Pending.next_eq_some.mpr ⟨f, time, hf, ?_, hyielded,
          Nat.max_le.mpr ⟨hdelay, hpast⟩, rfl⟩, ?_⟩
      · rw [hvalue, harrival]
      · rw [hvalue, looked, ← harrival]
  | none =>
      have hvalue : f.value.getD (outcomes k) = outcomes k := by rw [Future.value, harrival]; rfl
      have harrive : c.race.arrive k (outcomes k) = some { c.race with
          futures := c.race.futures.set k { f with arrival := some (c.race.now, outcomes k) } } :=
        Pending.arrive_eq_some.mpr ⟨f, hf, harrival, rfl⟩
      have hagrees : Agrees outcomes [.settle k (outcomes k)] := by
        intro j outcome hmem
        cases List.mem_singleton.mp hmem
        rfl
      refine ⟨[.settle k (outcomes k)], _, c.attempts[k], c.race.now, _, hagrees,
        Transition.run_cons_eq_some.mpr
          ⟨_, step_eq_some.mpr ⟨h.opened, .settle k (outcomes k) _ harrive⟩, rfl⟩, h.opened, rfl,
        List.getElem?_eq_getElem hlt, Nat.le_refl _, Pending.next_eq_some.mpr
          ⟨_, c.race.now, Indexed.getElem?_set_same hf, ?_, hyielded,
            Nat.max_le.mpr ⟨hdelay, Nat.le_refl _⟩, rfl⟩, ?_⟩
      · rw [hvalue]
      · rw [hvalue, looked, List.set_set]

/-- Looking at an attempt that has failed leaves one less. -/
theorem Due.failed (h : Due c) (hf : c.race.futures[k]? = some f) {time : Nat}
    (htime : time ≤ c.race.now) (e lastError : String) :
    Due { c with
      race := { c.race with futures := c.race.futures.set k (looked f time (.error e)) }
      lastError := some lastError } where
  opened := h.opened
  length_eq := by simpa using h.length_eq
  past := by
    intro f' hf' arrival harrival
    rcases List.mem_or_eq_of_mem_set hf' with hold | rfl
    · exact h.past f' hold arrival harrival
    · cases harrival
      exact htime
  delays := by
    intro f' hf'
    rcases List.mem_or_eq_of_mem_set hf' with hold | rfl
    · exact h.delays f' hold
    · exact h.delays f (List.mem_of_getElem? hf)

theorem Agrees.append {acts more : List RaceAction} (h : Agrees outcomes acts)
    (hmore : Agrees outcomes more) : Agrees outcomes (acts ++ more) := by
  intro j outcome hmem
  rcases List.mem_append.mp hmem with hold | hnew
  · exact h j outcome hold
  · exact hmore j outcome hnew

/-- Anything but a handshake that comes out may go first. -/
theorem Agrees.cons {a : RaceAction} (ha : ∀ j outcome, a ≠ .settle j outcome)
    (h : Agrees outcomes acts) : Agrees outcomes (a :: acts) := by
  intro j outcome hmem
  rcases List.mem_cons.mp hmem with rfl | htail
  · exact absurd rfl (ha j outcome)
  · exact h j outcome htail

/-- Once every attempt has its turn, the race can go on to its end. -/
theorem Due.returns (outcomes : Nat → Except String Unit) (n : Nat) (h : Due c)
    (hn : c.race.futures.countP (fun f => !f.yielded) = n) :
    ∃ more c' result, Agrees outcomes more ∧ run c more = some c' ∧ c'.result = some result := by
  induction n generalizing c with
  | zero =>
      have hdone : c.race.done = true := by
        simpa [Pending.done, List.countP_eq_zero] using hn
      exact ⟨[.exhausted], _, _, .cons nofun (by simp [Agrees]), Transition.run_cons_eq_some.mpr
        ⟨_, step_eq_some.mpr ⟨h.opened, .exhausted hdone⟩, rfl⟩, rfl⟩
  | succ n ih =>
      obtain ⟨f, hmem, hyielded⟩ := List.countP_pos_iff.mp (by rw [hn]; exact Nat.succ_pos n)
      obtain ⟨k, hf⟩ := List.mem_iff_getElem?.mp hmem
      have hyielded : f.yielded = false := by simpa using hyielded
      obtain ⟨acts, mid, a, time, race, hagrees, hacts, hopen, hattempts, ha, htime, hnext,
        hrace⟩ := h.look hf hyielded outcomes
      rw [← hattempts] at ha
      cases hvalue : f.value.getD (outcomes k) with
      | ok _ =>
          rw [hvalue] at hnext
          exact ⟨acts ++ [.next k], _, _, hagrees.append (.cons nofun (by simp [Agrees])),
            Transition.run_concat_eq_some.mpr
              ⟨mid, hacts, step_eq_some.mpr ⟨hopen, .won k a race hnext ha⟩⟩, rfl⟩
      | error e =>
          rw [hvalue] at hnext hrace
          have hlost := step_eq_some.mpr ⟨hopen, .lost k a e race hnext ha⟩
          have hafter : ({ mid with race := race, lastError := some (noted a.addr e) } : Connect) =
              { c with
                race := { c.race with futures := c.race.futures.set k (looked f time (.error e)) }
                lastError := some (noted a.addr e) } := by
            rw [hattempts, hrace, hopen, ← h.opened]
          rw [hafter] at hlost
          have hcount := Indexed.countP_set hf (looked f time (.error e)) fun f => !f.yielded
          simp only [looked, hyielded, Bool.not_false, Bool.not_true, Bool.toNat_true,
            Bool.toNat_false] at hcount
          obtain ⟨more, c', result, hagrees', hmore, hresult⟩ :=
            ih (h.failed hf htime e (noted a.addr e)) (by simp only [looked]; omega)
          exact ⟨acts ++ (.next k :: more), c', result, hagrees.append (.cons nofun hagrees'),
            Transition.run_append_eq_some.mpr
              ⟨mid, hacts, Transition.run_cons_eq_some.mpr ⟨_, hlost, hmore⟩⟩, hresult⟩

end Returns

theorem run_past (hrun : run (happyEyeballsConnect pool addrs dial).2 acts = some c) :
    c.race.Past := by
  refine Transition.run_invariant (P := fun c => c.race.Past) ?_ ?_ hrun
  · intro c act c' h hstep
    cases (step_eq_some.mp hstep).2 with
    | tick ms => exact h.tick ms
    | settle k outcome race harrive => exact h.arrive harrive
    | won k a race hnext ha => exact h.next hnext
    | lost k a e race hnext ha => exact h.next hnext
    | exhausted hdone => exact h
  · cases addrs <;> exact Pending.start_past _

/-- Let enough time pass for every attempt to have its turn, and look at them all. -/
theorem exists_return {l : Launched} (hsound : Sound addrs l c) (hpast : c.race.Past)
    (hopen : c.result = none) (outcomes : Nat → Except String Unit) :
    ∃ more c' result, Agrees outcomes more ∧ run c more = some c' ∧ c'.result = some result := by
  let latest := (c.race.futures.map (·.delay)).foldr Nat.max 0
  have hlatest : ∀ f ∈ c.race.futures, f.delay ≤ latest := by
    intro f hf
    have hmem : f.delay ∈ c.race.futures.map (·.delay) := List.mem_map_of_mem hf
    exact le_foldr_max hmem
  have hdue : Due { c with race := c.race.tick latest } :=
    ⟨hopen, hsound.length_eq, hpast.tick latest, fun f hf =>
      Nat.le_trans (hlatest f hf) (Nat.le_add_left _ _)⟩
  obtain ⟨more, c', result, hagrees, hmore, hresult⟩ := hdue.returns outcomes _ rfl
  exact ⟨.tick latest :: more, c', result, hagrees.cons nofun, Transition.run_cons_eq_some.mpr
    ⟨_, step_eq_some.mpr ⟨hopen, .tick latest⟩, hmore⟩, hresult⟩

/-- However the handshakes that are still running come out: the race can go on to
return; and whenever it returns, with its handshakes coming out like this, it returns a
connection exactly if a handshake that it has not looked at succeeds, whatever has
failed before. -/
theorem happy_eyeballs_returns {pool : EndpointPool} (hpool : pool.WellFormed)
    {addrs : List SocketAddr} {dial : Nat → Dial} {acts : List RaceAction} {c : Connect}
    (hrun : run (happyEyeballsConnect pool addrs dial).2 acts = some c) (hopen : c.result = none)
    (outcomes : Nat → Except String Unit) :
    (∃ more c' result, Agrees outcomes more ∧ run c more = some c' ∧ c'.result = some result) ∧
    ∀ more c' result, Agrees outcomes more → run c more = some c' → c'.result = some result →
      ((∃ conn, result = .ok conn) ↔ Promising c outcomes) :=
  ⟨exists_return (run_sound hpool hrun) (run_past hrun) hopen outcomes,
    fun _ _ _ hagrees hmore hresult => run_promising hagrees hopen hmore hresult⟩

/-- If both handshakes fail, an error is returned. -/
theorem happy_eyeballs_returns_error :
    ∃ more c' result, Agrees (fun _ => .error "refused") more ∧
      run (happyEyeballsConnect .empty sampleAddrs sampleDial).2 more = some c' ∧
      c'.result = some result ∧ ¬∃ conn, result = .ok conn := by
  have hstart : run (happyEyeballsConnect .empty sampleAddrs sampleDial).2 [] =
      some (happyEyeballsConnect .empty sampleAddrs sampleDial).2 := rfl
  obtain ⟨⟨more, c', result, hagrees, hmore, hresult⟩, hiff⟩ :=
    happy_eyeballs_returns EndpointPool.empty_wellFormed hstart rfl fun _ => .error "refused"
  refine ⟨more, c', result, hagrees, hmore, hresult, ?_⟩
  rw [hiff more c' result hagrees hmore hresult]
  rintro ⟨k, f, hf, -, hok⟩
  have hnone : f.value = none := by
    rcases k with _ | _ | k <;> cases hf <;> rfl
  rw [hnone] at hok
  cases hok

end HappyEyeballs
end Rusnel
