import Rusnel.Foundation.TcpConn
import Rusnel.Common.RemoteForms

/-!
# The loop of the tokenizer

{lit}`split_addr_tokens` is a loop over byte offsets with two ways to scan and
several ways to fail.  Here a round of it is written with every index and every
slice checked, and the loop is a relation between where it starts and what it
returns, so that a loop that does not end returns nothing.

What the tokenizer is for is said without it: where in a text a token starts,
and what the tokens of a text are.

Main results:

- Theorem {lit}`returns_iff`: the loop returns, and what it returns.
- Theorem {lit}`addrTokens_iff`: which texts have tokens.
- Theorem {lit}`splitAddrTokens_exact`: the tokenizer as a whole.
-/

namespace Rusnel

open Net Text

/-! ## The loop -/

/-- A round at an opening bracket: the token it pushes and where the next round
starts. -/
def bracketToken (s : List Char) (bytes : List UInt8) (i : Nat) :
    Except Failure (List Char × Nat) := do
  let behind ← Tcp.range bytes (i + 1) bytes.length
  let closeRel ← orInvalid (behind.findIdx? (· == ']'.toUInt8))
    "Invalid format: unterminated '['"
  let close := i + 1 + closeRel
  let token ← slice s i (close + 1)
  let i := close + 1
  if i < bytes.length then do
    let next ← Tcp.index bytes i
    if next ≠ ':'.toUInt8 then invalid "Invalid format: expected ':' after ']'"
    else if i + 1 = bytes.length then invalid "Invalid format: trailing ':' after ']'"
    else .ok (token, i + 1)
  else .ok (token, i)

/-- A round at anything else. -/
def plainToken (s : List Char) (bytes : List UInt8) (i : Nat) :
    Except Failure (List Char × Nat) := do
  let behind ← Tcp.range bytes i bytes.length
  let next := ((behind.findIdx? (· == ':'.toUInt8)).map (i + ·)).getD bytes.length
  let token ← slice s i next
  if next < bytes.length then
    if next + 1 = bytes.length then invalid "Invalid format: trailing ':'"
    else .ok (token, next + 1)
  else .ok (token, next)

/-- The round that starts at byte `i`. -/
def nextToken (s : List Char) (i : Nat) : Except Failure (List Char × Nat) := do
  let first ← Tcp.index (asBytes s) i
  if first = '['.toUInt8 then bracketToken s (asBytes s) i
  else plainToken s (asBytes s) i

/-- The loop, from offset `i` with the tokens pushed so far, ends with a result. -/
inductive Returns (s : List Char) :
    Nat → List (List Char) → Except Failure (List (List Char)) → Prop where
  | done {i : Nat} {tokens : List (List Char)} (hi : ¬i < (asBytes s).length) :
      Returns s i tokens (.ok tokens)
  | failed {i : Nat} {tokens : List (List Char)} {e : Failure} (hi : i < (asBytes s).length)
      (hround : nextToken s i = .error e) : Returns s i tokens (.error e)
  | again {i next : Nat} {tokens : List (List Char)} {token : List Char}
      {result : Except Failure (List (List Char))} (hi : i < (asBytes s).length)
      (hround : nextToken s i = .ok (token, next))
      (hrest : Returns s next (tokens ++ [token]) result) : Returns s i tokens result

/-- The loop returns at most once. -/
theorem Returns.unique {s : List Char} {i : Nat} {tokens : List (List Char)}
    {result other : Except Failure (List (List Char))} (h : Returns s i tokens result)
    (hother : Returns s i tokens other) : other = result := by
  induction h with
  | done hi =>
      cases hother with
      | done => rfl
      | failed hi' | again hi' => exact absurd hi' hi
  | failed hi hround =>
      cases hother with
      | done hi' => exact absurd hi hi'
      | failed _ hround' =>
          cases hround.symm.trans hround'
          rfl
      | again _ hround' => cases hround.symm.trans hround'
  | again hi hround _ ih =>
      cases hother with
      | done hi' => exact absurd hi hi'
      | failed _ hround' => cases hround.symm.trans hround'
      | again _ hround' hrest' =>
          cases hround.symm.trans hround'
          exact ih hrest'

/-! ## A round -/

theorem index_eq_ok {bytes : List UInt8} {i : Nat} (hi : i < bytes.length) :
    ∃ b, Tcp.index bytes i = .ok b ∧ bytes[i]? = some b :=
  ⟨bytes[i], by simp [Tcp.index, hi], List.getElem?_eq_getElem hi⟩

/-- At the end of the bytes the recursive scan has no more tokens. -/
theorem splitAddrTokensFrom_end {s : List Char} {bytes : List UInt8} {i : Nat}
    (hi : ¬i < bytes.length) (fuel : Nat) : splitAddrTokensFrom s bytes fuel i = .ok [] := by
  cases fuel with
  | zero => rfl
  | succ fuel => rw [splitAddrTokensFrom, if_neg hi]

section Scan

variable {s : List Char} {i : Nat}

/-- Go on with the recursive scan behind a round. -/
def continueScan (s : List Char) (fuel : Nat) (round : Except Failure (List Char × Nat)) :
    Except Failure (List (List Char)) := do
  let (token, next) ← round
  let rest ← splitAddrTokensFrom s (asBytes s) fuel next
  .ok (token :: rest)

theorem continueScan_bracketToken (hi : i < (asBytes s).length)
    (hopen : (asBytes s)[i]? = some '['.toUInt8) (fuel : Nat) :
    splitAddrTokensFrom s (asBytes s) (fuel + 1) i
      = continueScan s fuel (bracketToken s (asBytes s) i) := by
  rw [splitAddrTokensFrom, if_pos hi, if_pos hopen, bracketToken, Tcp.range_to_end hi, positionFrom]
  cases hclose : ((asBytes s).drop (i + 1)).findIdx? (· == ']'.toUInt8) with
  | none => simp only [Option.map_none, orInvalid, bind, Except.bind, hclose, continueScan]
  | some closeRel =>
      simp only [Option.map_some, orInvalid, bind, Except.bind, hclose]
      cases slice s i (i + 1 + closeRel + 1) with
      | error e => rfl
      | ok token =>
          dsimp only
          by_cases hmore : i + 1 + closeRel + 1 < (asBytes s).length
          · obtain ⟨b, hindex, hget⟩ := index_eq_ok hmore
            simp only [if_pos hmore, hindex, hget, ne_eq, Option.some.injEq]
            split_ifs <;> rfl
          · simp only [if_neg hmore, continueScan, bind, Except.bind, splitAddrTokensFrom_end hmore]

theorem continueScan_plainToken (hi : i < (asBytes s).length)
    (hopen : (asBytes s)[i]? ≠ some '['.toUInt8) (fuel : Nat) :
    splitAddrTokensFrom s (asBytes s) (fuel + 1) i
      = continueScan s fuel (plainToken s (asBytes s) i) := by
  rw [splitAddrTokensFrom, if_pos hi, if_neg hopen, plainToken, Tcp.range_to_end (Nat.le_of_lt hi)]
  obtain ⟨next, hnext⟩ : ∃ next, ((((asBytes s).drop i).findIdx? (· == ':'.toUInt8)).map
      (i + ·)).getD (asBytes s).length = next := ⟨_, rfl⟩
  simp only [positionFrom, bind, Except.bind, hnext]
  cases slice s i next with
  | error e => rfl
  | ok token =>
      dsimp only
      by_cases hmore : next < (asBytes s).length
      · simp only [if_pos hmore]
        split_ifs <;> rfl
      · simp only [if_neg hmore, continueScan, bind, Except.bind, splitAddrTokensFrom_end hmore]

/-- The recursive scan takes one round and goes on behind it. -/
theorem splitAddrTokensFrom_succ (hi : i < (asBytes s).length) (fuel : Nat) :
    splitAddrTokensFrom s (asBytes s) (fuel + 1) i = continueScan s fuel (nextToken s i) := by
  obtain ⟨b, hindex, hget⟩ := index_eq_ok hi
  rw [nextToken, hindex]
  simp only [bind, Except.bind]
  split_ifs with hopen
  · exact continueScan_bracketToken hi (by rw [hget, hopen]) fuel
  · exact continueScan_plainToken hi (by rwa [hget, ne_eq, Option.some.injEq]) fuel

/-- A round moves on. -/
theorem lt_of_nextToken {token : List Char} {next : Nat} (hi : i < (asBytes s).length)
    (h : nextToken s i = .ok (token, next)) : i < next := by
  obtain ⟨b, -, h⟩ := bind_eq_ok h
  split_ifs at h
  · obtain ⟨behind, -, h⟩ := bind_eq_ok h
    obtain ⟨closeRel, -, h⟩ := bind_eq_ok h
    obtain ⟨t, -, h⟩ := bind_eq_ok h
    by_cases hmore : i + 1 + closeRel + 1 < (asBytes s).length
    · rw [if_pos hmore] at h
      obtain ⟨c, -, h⟩ := bind_eq_ok h
      split_ifs at h
      cases h
      omega
    · rw [if_neg hmore] at h
      cases h
      omega
  · obtain ⟨behind, -, h⟩ := bind_eq_ok h
    obtain ⟨t, -, h⟩ := bind_eq_ok h
    have hle : i ≤ ((behind.findIdx? (· == ':'.toUInt8)).map (i + ·)).getD (asBytes s).length := by
      cases behind.findIdx? (· == ':'.toUInt8) with
      | none => exact Nat.le_of_lt hi
      | some k => exact Nat.le_add_right i k
    split_ifs at h
    · cases h
      omega
    · cases h
      omega

end Scan

/-- The loop goes on as the recursive scan does. -/
theorem returns_splitAddrTokensFrom (s : List Char) {i fuel : Nat} (tokens : List (List Char))
    (hfuel : (asBytes s).length - i ≤ fuel) :
    Returns s i tokens ((splitAddrTokensFrom s (asBytes s) fuel i).map (tokens ++ ·)) := by
  induction fuel generalizing i tokens with
  | zero =>
      have hend : ¬i < (asBytes s).length := by omega
      rw [splitAddrTokensFrom_end hend, Except.map, List.append_nil]
      exact .done hend
  | succ fuel ih =>
      by_cases hi : i < (asBytes s).length
      · rw [splitAddrTokensFrom_succ hi]
        cases hround : nextToken s i with
        | error e => exact .failed hi hround
        | ok round =>
            obtain ⟨token, next⟩ := round
            have hlt := lt_of_nextToken hi hround
            have hrest := ih (tokens ++ [token]) (by omega : (asBytes s).length - next ≤ fuel)
            refine .again hi hround ?_
            simp only [continueScan, bind, Except.bind]
            cases hscan : splitAddrTokensFrom s (asBytes s) fuel next with
            | error e =>
                rw [hscan] at hrest
                exact hrest
            | ok rest =>
                rw [hscan, Except.map, List.append_assoc] at hrest
                exact hrest
      · rw [splitAddrTokensFrom_end hi, Except.map, List.append_nil]
        exact .done hi

/-- The loop ends, with the result of the tokenizer and no other. -/
theorem returns_iff (s : List Char) (result : Except Failure (List (List Char))) :
    Returns s 0 [] result ↔ result = splitAddrTokens s := by
  have hreturns := returns_splitAddrTokensFrom s [] (Nat.sub_le (asBytes s).length 0)
  have hsame : (splitAddrTokensFrom s (asBytes s) (asBytes s).length 0).map ([] ++ ·)
      = splitAddrTokens s := by
    rw [splitAddrTokens]
    cases splitAddrTokensFrom s (asBytes s) (asBytes s).length 0 <;> rfl
  rw [hsame] at hreturns
  constructor
  · exact hreturns.unique
  · rintro rfl
    exact hreturns

/-! ## Where tokens start -/

/-- A token of the text starts at this rest of it: at the start of the text, or
behind a separator. -/
inductive TokenAt (s : List Char) : List Char → Prop where
  | first : TokenAt s s
  | next {t rest : List Char} (h : TokenAt s (t ++ ':' :: rest)) (ht : AddrToken t) :
      TokenAt s rest

/-- The last character of the text is a colon behind a token. -/
def EndsInSeparator (s : List Char) : Prop :=
  ∃ t, AddrToken t ∧ TokenAt s (t ++ [':'])

/-- What follows an opening bracket closes it, at the end or before a colon. -/
def Closed (rest : List Char) : Prop :=
  ∃ inner behind, rest = inner ++ ']' :: behind ∧ ']' ∉ inner ∧
    (behind = [] ∨ behind.head? = some ':')

/-- The tokens of a text, from any of them on. -/
theorem TokenAt.addrTokens {s rest : List Char} (h : TokenAt s rest)
    (hs : ∃ tokens, AddrTokens s tokens) : ∃ tokens, AddrTokens rest tokens := by
  induction h with
  | first => exact hs
  | next _ ht ih =>
      obtain ⟨tokens, htokens⟩ := ih
      obtain ⟨-, tail, -, htail⟩ := htokens.of_colon ht
      exact ⟨tail, htail⟩

theorem AddrTokens.not_badBracket {s : List Char} {tokens : List (List Char)}
    (h : AddrTokens s tokens) : ¬BadBracket s := by
  intro hbad
  obtain ⟨message, herror⟩ := scanFrom_badBracket [] (asBytes s).length hbad
  cases herror.symm.trans (h.scanFrom [] (Nat.le_succ _))

/-- A bracket at the start is closed, or it is a bad one. -/
theorem closed_or_badBracket (rest : List Char) : Closed rest ∨ BadBracket ('[' :: rest) := by
  by_cases hmem : ']' ∈ rest
  · obtain ⟨inner, behind, rfl, hclose⟩ := List.eq_append_cons_of_mem hmem
    cases behind with
    | nil => exact .inl ⟨inner, [], rfl, hclose, .inl rfl⟩
    | cons c behind =>
        by_cases hc : c = ':'
        · exact .inl ⟨inner, c :: behind, rfl, hclose, .inr (by rw [hc]; rfl)⟩
        · exact .inr (.noColon hclose hc)
  · exact .inr (.unterminated hmem)

theorem Closed.not_badBracket {rest : List Char} (h : Closed rest) :
    ¬BadBracket ('[' :: rest) := by
  obtain ⟨inner, behind, rfl, hinner, hbehind⟩ := h
  intro hbad
  generalize htext : '[' :: (inner ++ ']' :: behind) = text at hbad
  cases hbad with
  | unterminated hclose =>
      cases htext
      exact hclose (by simp)
  | noColon hclose hc =>
      -- The first closing bracket of the text is the same in both readings.
      have hsplit := splitOnce_append hinner behind
      rw [(List.cons.inj htext).2, splitOnce_append hclose] at hsplit
      cases hsplit
      rcases hbehind with hnil | hcolon
      · cases hnil
      · exact hc (Option.some.inj hcolon)

/-- A text has tokens if it does not end in a separator and every bracket a token
starts with is closed. -/
theorem TokenAt.exists_addrTokens {s rest : List Char} (h : TokenAt s rest)
    (hend : ¬EndsInSeparator s) (hclosed : ∀ inner, TokenAt s ('[' :: inner) → Closed inner) :
    ∃ tokens, AddrTokens rest tokens := by
  induction hlength : rest.length using Nat.strong_induction_on generalizing rest with
  | _ n ih =>
      subst hlength
      rcases addrToken_cases rest with ht | ⟨t, tail, ht, rfl⟩ | hbad
      · by_cases hne : rest = []
        · subst hne
          exact ⟨[], .nil⟩
        · exact ⟨[rest], .last ht hne⟩
      · by_cases hne : tail = []
        · subst hne
          exact absurd ⟨t, ht, h⟩ hend
        · have hshorter : tail.length < (t ++ ':' :: tail).length := by
            simp only [List.length_append, List.length_cons]
            omega
          obtain ⟨tokens, htokens⟩ := ih tail.length hshorter (h.next ht) rfl
          exact ⟨t :: tokens, .cons ht hne htokens⟩
      · have hopen : ∃ inner, rest = '[' :: inner := by
          cases hbad <;> exact ⟨_, rfl⟩
        obtain ⟨inner, rfl⟩ := hopen
        exact absurd hbad (hclosed inner h).not_badBracket

theorem addrTokens_iff (s : List Char) :
    (∃ tokens, AddrTokens s tokens) ↔
      ¬EndsInSeparator s ∧ ∀ inner, TokenAt s ('[' :: inner) → Closed inner := by
  constructor
  · intro hs
    refine ⟨?_, fun inner hinner => ?_⟩
    · rintro ⟨t, ht, hlast⟩
      obtain ⟨tokens, htokens⟩ := hlast.addrTokens hs
      exact (htokens.of_colon ht).1 rfl
    · obtain ⟨tokens, htokens⟩ := hinner.addrTokens hs
      exact (closed_or_badBracket inner).resolve_right htokens.not_badBracket
  · rintro ⟨hend, hclosed⟩
    exact TokenAt.first.exists_addrTokens hend hclosed

/-! ## The tokens and their text -/

theorem AddrTokens.joined_eq {s : List Char} {tokens : List (List Char)}
    (h : AddrTokens s tokens) : joined tokens = s ∧ ∀ t ∈ tokens, AddrToken t := by
  induction h with
  | nil => exact ⟨rfl, by simp⟩
  | last ht _ => exact ⟨List.intercalate_singleton, List.forall_mem_singleton.mpr ht⟩
  | @cons t rest tokens ht hne hrest ih =>
      obtain ⟨hjoined, htokens⟩ := ih
      refine ⟨?_, List.forall_mem_cons.mpr ⟨ht, htokens⟩⟩
      cases tokens with
      | nil => exact absurd hjoined.symm hne
      | cons next tokens => rw [joined_cons, hjoined]

/-- Tokens that are joined to a text are its tokens. -/
theorem AddrTokens.eq_of_joined {tokens other : List (List Char)} (hne : joined other ≠ [])
    (h : AddrTokens (joined other) tokens) (hother : ∀ t ∈ other, AddrToken t) :
    other = tokens := by
  induction other generalizing tokens with
  | nil => exact absurd rfl hne
  | cons t rest ih =>
      obtain ⟨ht, hrest⟩ := List.forall_mem_cons.mp hother
      cases rest with
      | nil =>
          have hone : joined [t] = t := List.intercalate_singleton
          rw [hone] at h hne
          exact (h.of_token ht hne).symm
      | cons next rest =>
          rw [joined_cons] at h
          obtain ⟨hmore, tail, rfl, htail⟩ := h.of_colon ht
          rw [ih hmore htail hrest]

/-- The loop ends without a slice outside the text or inside a character.  It
succeeds exactly if the text does not end in a separator and every bracket that
starts a token is closed at the end or before a colon.  Its tokens are joined to
the text again, and no other tokens of a text that is not empty are. -/
theorem splitAddrTokens_exact (s : List Char) :
    (∀ result, Returns s 0 [] result ↔ result = splitAddrTokens s) ∧
    splitAddrTokens s ≠ .error .abort ∧
    ((∃ tokens, splitAddrTokens s = .ok tokens) ↔
      ¬EndsInSeparator s ∧ ∀ inner, TokenAt s ('[' :: inner) → Closed inner) ∧
    ∀ tokens, splitAddrTokens s = .ok tokens →
      joined tokens = s ∧ (∀ t ∈ tokens, AddrToken t) ∧ (s = [] → tokens = []) ∧
      (s ≠ [] → ∀ other, joined other = s → (∀ t ∈ other, AddrToken t) → other = tokens) := by
  refine ⟨returns_iff s, splitAddrTokens_ne_abort s, ?_, fun tokens hok => ?_⟩
  · rw [← addrTokens_iff]
    exact exists_congr fun _ => splitAddrTokens_eq_ok
  · have htokens := splitAddrTokens_eq_ok.mp hok
    obtain ⟨hjoined, hparts⟩ := htokens.joined_eq
    refine ⟨hjoined, hparts, ?_, fun hne other hother hall => ?_⟩
    · rintro rfl
      cases hok
      rfl
    · subst hother
      exact htokens.eq_of_joined hne hall

/-- The text of a bracketed host: the colons inside are not separators. -/
theorem splitAddrTokens_exact_bracketed :
    splitAddrTokens "[::1]:80".toList = .ok ["[::1]".toList, "80".toList] ∧
      joined ["[::1]".toList, "80".toList] = "[::1]:80".toList := by
  have hok : splitAddrTokens "[::1]:80".toList = .ok ["[::1]".toList, "80".toList] := by decide
  exact ⟨hok, ((splitAddrTokens_exact _).2.2.2 _ hok).1⟩

end Rusnel
