import Rusnel.Foundation.Utf8
import Rusnel.Common.RemoteParser

/-!
# The tokens of a remote

The tokenizer of a remote scans the bytes of the text.  Here its result is
described on characters: a text is a sequence of tokens separated by colons,
where a token in brackets may itself contain colons.

Main results:

- Theorem {lit}`splitAddrTokens_eq_ok`: the tokenizer accepts exactly the texts
  of this grammar, and returns their tokens.
- Theorem {lit}`splitAddrTokens_ne_abort`: it never slices inside a character.
-/

namespace Rusnel

open Net Text

/-- A token: one in brackets, closed by the first closing bracket, or any text
without a colon that does not start with a bracket. -/
inductive AddrToken : List Char → Prop where
  | plain {t : List Char} (hcolon : ':' ∉ t) (hhead : t.head? ≠ some '[') : AddrToken t
  | bracketed {inner : List Char} (hclose : ']' ∉ inner) : AddrToken ('[' :: (inner ++ [']']))

/-- Tokens separated by colons; the last one is not empty. -/
inductive AddrTokens : List Char → List (List Char) → Prop where
  | nil : AddrTokens [] []
  | last {t : List Char} (ht : AddrToken t) (hne : t ≠ []) : AddrTokens t [t]
  | cons {t rest : List Char} {tokens : List (List Char)} (ht : AddrToken t) (hne : rest ≠ [])
      (hrest : AddrTokens rest tokens) : AddrTokens (t ++ ':' :: rest) (t :: tokens)

/-- A text that starts with a bracket that is not closed, or is closed before
something other than a colon. -/
inductive BadBracket : List Char → Prop where
  | unterminated {inner : List Char} (hclose : ']' ∉ inner) : BadBracket ('[' :: inner)
  | noColon {inner rest : List Char} {c : Char} (hclose : ']' ∉ inner) (hc : c ≠ ':') :
      BadBracket ('[' :: (inner ++ ']' :: c :: rest))

/-- How a text can start. -/
theorem addrToken_cases (s : List Char) :
    AddrToken s ∨ (∃ t rest, AddrToken t ∧ s = t ++ ':' :: rest) ∨ BadBracket s := by
  by_cases hhead : s.head? = some '['
  · obtain ⟨s, rfl⟩ : ∃ s', s = '[' :: s' := by
      cases s with
      | nil => cases hhead
      | cons c s =>
          cases hhead
          exact ⟨s, rfl⟩
    by_cases hmem : ']' ∈ s
    · obtain ⟨inner, rest, rfl, hclose⟩ := List.eq_append_cons_of_mem hmem
      cases rest with
      | nil => exact .inl (.bracketed hclose)
      | cons c rest =>
          by_cases hc : c = ':'
          · subst hc
            exact .inr (.inl ⟨_, rest, .bracketed hclose, by simp⟩)
          · exact .inr (.inr (.noColon hclose hc))
    · exact .inr (.inr (.unterminated hmem))
  · by_cases hmem : ':' ∈ s
    · obtain ⟨t, rest, rfl, hcolon⟩ := List.eq_append_cons_of_mem hmem
      have ht : t.head? ≠ some '[' := by
        cases t with
        | nil => simp
        | cons c t => simpa using hhead
      exact .inr (.inl ⟨t, rest, .plain hcolon ht, rfl⟩)
    · exact .inl (.plain hmem hhead)

/-! ## One round of the scan -/

/-- The scan of what is left of a text. -/
def scanFrom (done left : List Char) (fuel : Nat) : Except Failure (List (List Char)) :=
  splitAddrTokensFrom (done ++ left) (asBytes (done ++ left)) fuel (asBytes done).length

section Round

variable (done : List Char) (fuel : Nat)

theorem positionFrom_append {done part left : List Char} {sep : Char} (hsep : sep.toNat < 128)
    (hpart : sep ∉ part) :
    positionFrom (asBytes (done ++ (part ++ sep :: left))) (asBytes done).length sep.toUInt8
      = some ((asBytes done).length + (asBytes part).length) := by
  rw [positionFrom, asBytes_append, List.drop_left, findIdx?_asBytes hsep hpart,
    Option.map_some]

theorem positionFrom_none {done left : List Char} {sep : Char} (hsep : sep.toNat < 128)
    (hleft : sep ∉ left) :
    positionFrom (asBytes (done ++ left)) (asBytes done).length sep.toUInt8 = none := by
  rw [positionFrom, asBytes_append, List.drop_left, findIdx?_asBytes_none hsep hleft,
    Option.map_none]

/-- The byte at the start of what is left. -/
theorem getElem?_asBytes (done left : List Char) {sep : Char} (hsep : sep.toNat < 128) :
    (asBytes (done ++ left))[(asBytes done).length]? = some sep.toUInt8 ↔
      left.head? = some sep := by
  rw [asBytes_append, List.getElem?_append_right (Nat.le_refl _), Nat.sub_self,
    ← List.head?_eq_getElem?, head?_asBytes hsep]

theorem asBytes_ne_nil {s : List Char} (h : s ≠ []) : 0 < (asBytes s).length := by
  cases s with
  | nil => exact absurd rfl h
  | cons c s =>
      have hpos := c.utf8Size_pos
      rw [length_asBytes_cons]
      omega

theorem length_asBytes_lt {done left : List Char} :
    (asBytes done).length < (asBytes (done ++ left)).length ↔ left ≠ [] := by
  rw [asBytes_append, List.length_append]
  constructor
  · rintro h rfl
    simp at h
  · intro h
    have hpos := asBytes_ne_nil h
    omega

theorem length_asBytes_colon (done left : List Char) :
    (asBytes done).length + 1 = (asBytes (done ++ ':' :: left)).length ↔ left = [] := by
  have hcolon : String.utf8EncodeChar ':' = [':'.toUInt8] := utf8EncodeChar_ascii (by decide)
  have hlt : (asBytes (done ++ [':'])).length < (asBytes (done ++ [':'] ++ left)).length ↔
      left ≠ [] := length_asBytes_lt
  simp only [asBytes_append, asBytes_cons, asBytes_nil, hcolon, List.length_append,
    List.length_cons, List.length_nil] at hlt ⊢
  constructor
  · intro h
    by_contra hne
    have := hlt.mpr hne
    omega
  · rintro rfl
    simp

/-- A plain token at the end. -/
theorem scanFrom_plain_last {t : List Char} (hcolon : ':' ∉ t) (hhead : t.head? ≠ some '[')
    (hne : t ≠ []) : scanFrom done t (fuel + 1) = .ok [t] := by
  have hslice : slice (done ++ t) (asBytes done).length (asBytes (done ++ t)).length = .ok t := by
    have h := slice_append done t []
    rwa [List.append_nil, ← List.length_append, ← asBytes_append] at h
  rw [scanFrom, splitAddrTokensFrom, if_pos (length_asBytes_lt.mpr hne),
    if_neg (by rw [getElem?_asBytes _ _ (by decide)]; exact hhead),
    positionFrom_none (by decide) hcolon, Option.getD_none]
  simp only [hslice, bind, Except.bind]
  rw [if_neg (Nat.lt_irrefl _)]

/-- A plain token before a colon. -/
theorem scanFrom_plain_colon {t left : List Char} (hcolon : ':' ∉ t)
    (hhead : t.head? ≠ some '[') :
    scanFrom done (t ++ ':' :: left) (fuel + 1) =
      if left = [] then invalid "Invalid format: trailing ':'"
      else (scanFrom (done ++ (t ++ [':'])) left fuel).map (t :: ·) := by
  have hne : t ++ ':' :: left ≠ [] := by simp
  have hhead' : (t ++ ':' :: left).head? ≠ some '[' := by
    cases t with
    | nil => simp
    | cons c t => simpa using hhead
  have hslice := slice_append done t (':' :: left)
  have hbytes : (asBytes done).length + (asBytes t).length = (asBytes (done ++ t)).length := by
    rw [asBytes_append, List.length_append]
  have hassoc : done ++ (t ++ ':' :: left) = done ++ t ++ ':' :: left := by simp
  have hnext : (asBytes (done ++ t)).length + 1 = (asBytes (done ++ (t ++ [':']))).length := by
    rw [← List.append_assoc]
    exact (length_asBytes_colon (done ++ t) []).mpr rfl
  have htext : done ++ t ++ ':' :: left = done ++ (t ++ [':']) ++ left := by simp
  rw [scanFrom, splitAddrTokensFrom, if_pos (length_asBytes_lt.mpr hne),
    if_neg (by rw [getElem?_asBytes _ _ (by decide)]; exact hhead'),
    positionFrom_append (by decide) hcolon, Option.getD_some]
  simp only [hslice, bind, Except.bind]
  rw [hbytes, hassoc, if_pos (length_asBytes_lt.mpr (by simp))]
  by_cases hleft : left = []
  · rw [if_pos ((length_asBytes_colon _ _).mpr hleft), if_pos hleft]
  · rw [if_neg (mt (length_asBytes_colon _ _).mp hleft), if_neg hleft, hnext, htext]
    rfl

/-- The bracket branch once the closing bracket is found. -/
theorem scanFrom_close {inner left token : List Char} (hclose : ']' ∉ inner)
    (htoken : token = '[' :: (inner ++ [']'])) :
    scanFrom done (token ++ left) (fuel + 1) =
      let bytes := asBytes (done ++ token ++ left)
      let i := (asBytes (done ++ token)).length
      if i < bytes.length then
        if bytes[i]? ≠ some ':'.toUInt8 then invalid "Invalid format: expected ':' after ']'"
        else if i + 1 = bytes.length then invalid "Invalid format: trailing ':' after ']'"
        else (splitAddrTokensFrom (done ++ token ++ left) bytes fuel (i + 1)).map (token :: ·)
      else .ok [token] := by
  have hopen : (asBytes done).length + 1 = (asBytes (done ++ ['['])).length := by
    simp [utf8EncodeChar_ascii (by decide : '['.toNat < 128)]
  have hend : (asBytes (done ++ ['['])).length + (asBytes inner).length + 1
      = (asBytes (done ++ token)).length := by
    simp [htoken, utf8EncodeChar_ascii (by decide : '['.toNat < 128),
      utf8EncodeChar_ascii (by decide : ']'.toNat < 128)]
    omega
  have hposition : positionFrom (asBytes (done ++ (token ++ left)))
      (asBytes (done ++ ['['])).length ']'.toUInt8
      = some ((asBytes (done ++ ['['])).length + (asBytes inner).length) := by
    have hsplit : done ++ (token ++ left) = done ++ ['['] ++ (inner ++ ']' :: left) := by
      simp [htoken]
    rw [hsplit]
    exact positionFrom_append (by decide) hclose
  have hslice : slice (done ++ (token ++ left)) (asBytes done).length
      (asBytes (done ++ token)).length = .ok token := by
    rw [asBytes_append, List.length_append]
    exact slice_append done token left
  have hhead : (token ++ left).head? = some '[' := by simp [htoken]
  have hne : token ++ left ≠ [] := by simp [htoken]
  rw [scanFrom, splitAddrTokensFrom, if_pos (length_asBytes_lt.mpr hne),
    if_pos ((getElem?_asBytes _ _ (by decide)).mpr hhead), hopen, hposition]
  simp only [orInvalid, bind, Except.bind, hend, hslice]
  rw [← List.append_assoc done token left]
  rfl

/-- A token in brackets, and what may follow it. -/
theorem scanFrom_bracketed {inner : List Char} (left : List Char) (hclose : ']' ∉ inner) :
    scanFrom done ('[' :: (inner ++ [']']) ++ left) (fuel + 1) =
      match left with
      | [] => .ok ['[' :: (inner ++ [']'])]
      | c :: left =>
          if c ≠ ':' then invalid "Invalid format: expected ':' after ']'"
          else if left = [] then invalid "Invalid format: trailing ':' after ']'"
          else (scanFrom (done ++ ('[' :: (inner ++ [']']) ++ [':'])) left fuel).map
            (('[' :: (inner ++ [']'])) :: ·) := by
  rw [scanFrom_close done fuel hclose rfl]
  generalize '[' :: (inner ++ [']']) = token
  simp only
  cases left with
  | nil => rw [List.append_nil, if_neg (Nat.lt_irrefl _)]
  | cons c left =>
      have hhead := getElem?_asBytes (done ++ token) (c :: left) (by decide : ':'.toNat < 128)
      dsimp only
      rw [if_pos (length_asBytes_lt.mpr (List.cons_ne_nil c left))]
      by_cases hc : c = ':'
      · subst hc
        have hnext : (asBytes (done ++ token)).length + 1
            = (asBytes (done ++ (token ++ [':']))).length := by
          rw [← List.append_assoc]
          exact (length_asBytes_colon (done ++ token) []).mpr rfl
        have hafter : done ++ token ++ ':' :: left = done ++ (token ++ [':']) ++ left := by simp
        rw [if_neg (not_not.mpr (hhead.mpr rfl)), if_neg (not_not.mpr rfl)]
        by_cases hleft : left = []
        · rw [if_pos ((length_asBytes_colon _ _).mpr hleft), if_pos hleft]
        · rw [if_neg (mt (length_asBytes_colon _ _).mp hleft), if_neg hleft, hnext, hafter,
            scanFrom]
      · rw [if_pos (mt hhead.mp (by simpa using hc)), if_pos hc]

/-- A bracket that is not closed. -/
theorem scanFrom_unterminated {inner : List Char} (hclose : ']' ∉ inner) :
    scanFrom done ('[' :: inner) (fuel + 1) = invalid "Invalid format: unterminated '['" := by
  have hopen : (asBytes done).length + 1 = (asBytes (done ++ ['['])).length := by
    simp [utf8EncodeChar_ascii (by decide : '['.toNat < 128)]
  have hposition : positionFrom (asBytes (done ++ '[' :: inner)) (asBytes (done ++ ['['])).length
      ']'.toUInt8 = none := by
    have hsplit : done ++ '[' :: inner = done ++ ['['] ++ inner := by simp
    rw [hsplit]
    exact positionFrom_none (by decide) hclose
  rw [scanFrom, splitAddrTokensFrom, if_pos (length_asBytes_lt.mpr (by simp)),
    if_pos ((getElem?_asBytes _ _ (by decide)).mpr rfl), hopen, hposition]
  rfl

/-- A token at the end. -/
theorem scanFrom_last {t : List Char} (ht : AddrToken t) (hne : t ≠ []) :
    scanFrom done t (fuel + 1) = .ok [t] := by
  cases ht with
  | plain hcolon hhead => exact scanFrom_plain_last done fuel hcolon hhead hne
  | bracketed hclose => simpa using scanFrom_bracketed done fuel [] hclose

/-- A token before a colon; a colon is not the last character. -/
theorem scanFrom_colon {t : List Char} (ht : AddrToken t) (left : List Char) :
    (left = [] → ∃ message, scanFrom done (t ++ ':' :: left) (fuel + 1) = invalid message) ∧
      (left ≠ [] → scanFrom done (t ++ ':' :: left) (fuel + 1)
        = (scanFrom (done ++ (t ++ [':'])) left fuel).map (t :: ·)) := by
  cases ht with
  | plain hcolon hhead =>
      rw [scanFrom_plain_colon done fuel hcolon hhead]
      exact ⟨fun hleft => ⟨_, if_pos hleft⟩, fun hleft => if_neg hleft⟩
  | bracketed hclose =>
      have h := scanFrom_bracketed done fuel (':' :: left) hclose
      simp only [ne_eq, not_true_eq_false, if_false] at h
      rw [h]
      exact ⟨fun hleft => ⟨_, if_pos hleft⟩, fun hleft => if_neg hleft⟩

/-- A bad bracket is an error. -/
theorem scanFrom_badBracket {s : List Char} (hs : BadBracket s) :
    ∃ message, scanFrom done s (fuel + 1) = invalid message := by
  cases hs with
  | unterminated hclose => exact ⟨_, scanFrom_unterminated done fuel hclose⟩
  | @noColon inner rest c hclose hc =>
      have h := scanFrom_bracketed done fuel (c :: rest) hclose
      simp only [if_pos hc, List.cons_append, List.append_assoc, List.nil_append] at h
      exact ⟨_, h⟩

end Round

/-! ## The whole scan -/

theorem scanFrom_nil (done : List Char) (fuel : Nat) : scanFrom done [] fuel = .ok [] := by
  cases fuel with
  | zero => rfl
  | succ fuel =>
      rw [scanFrom, splitAddrTokensFrom, List.append_nil, if_neg (Nat.lt_irrefl _)]

/-- With a round for each byte, the scan returns the tokens of the grammar or an
error. -/
theorem scanFrom_cases (done left : List Char) {fuel : Nat}
    (hfuel : (asBytes left).length ≤ fuel) :
    (∃ tokens, scanFrom done left fuel = .ok tokens ∧ AddrTokens left tokens) ∨
      ∃ message, scanFrom done left fuel = invalid message := by
  induction fuel generalizing done left with
  | zero =>
      have hnil : left = [] := by
        by_contra hne
        have hpos := asBytes_ne_nil hne
        omega
      subst hnil
      exact .inl ⟨[], scanFrom_nil done 0, .nil⟩
  | succ fuel ih =>
      rcases addrToken_cases left with ht | ⟨t, rest, ht, rfl⟩ | hbad
      · by_cases hne : left = []
        · subst hne
          exact .inl ⟨[], scanFrom_nil done _, .nil⟩
        · exact .inl ⟨[left], scanFrom_last done fuel ht hne, .last ht hne⟩
      · obtain ⟨htrailing, hmore⟩ := scanFrom_colon done fuel ht rest
        by_cases hne : rest = []
        · exact .inr (htrailing hne)
        · have hrest : (asBytes rest).length ≤ fuel := by
            simp only [asBytes_append, length_asBytes_cons, List.length_append] at hfuel
            have hpos := Char.utf8Size_pos ':'
            omega
          rw [hmore hne]
          rcases ih (done ++ (t ++ [':'])) rest hrest with ⟨tokens, hok, htokens⟩ | ⟨message, herr⟩
          · exact .inl ⟨t :: tokens, by rw [hok]; rfl, .cons ht hne htokens⟩
          · exact .inr ⟨message, by rw [herr]; rfl⟩
      · exact .inr (scanFrom_badBracket done fuel hbad)

/-- The scan accepts every text of the grammar. -/
theorem AddrTokens.scanFrom {left : List Char} {tokens : List (List Char)}
    (h : AddrTokens left tokens) (done : List Char) {fuel : Nat}
    (hfuel : (asBytes left).length ≤ fuel) : scanFrom done left fuel = .ok tokens := by
  induction h generalizing done fuel with
  | nil => exact scanFrom_nil done fuel
  | last ht hne =>
      obtain ⟨fuel, rfl⟩ : ∃ n, fuel = n + 1 := by
        have hpos := asBytes_ne_nil hne
        exact ⟨fuel - 1, by omega⟩
      exact scanFrom_last done fuel ht hne
  | @cons t rest tokens ht hne hrest ih =>
      simp only [asBytes_append, length_asBytes_cons, List.length_append] at hfuel
      have hpos := Char.utf8Size_pos ':'
      obtain ⟨fuel, rfl⟩ : ∃ n, fuel = n + 1 := ⟨fuel - 1, by omega⟩
      rw [(scanFrom_colon done fuel ht rest).2 hne, ih _ (by omega)]
      rfl

/-- Behind a token and a colon come the other tokens. -/
theorem AddrTokens.of_colon {t rest : List Char} {tokens : List (List Char)} (ht : AddrToken t)
    (h : AddrTokens (t ++ ':' :: rest) tokens) :
    rest ≠ [] ∧ ∃ tail, tokens = t :: tail ∧ AddrTokens rest tail := by
  have hscan := h.scanFrom [] (Nat.le_succ _)
  have hfuel : (asBytes rest).length ≤ (asBytes (t ++ ':' :: rest)).length := by
    simp only [asBytes_append, length_asBytes_cons, List.length_append]
    omega
  obtain ⟨htrailing, hmore⟩ := scanFrom_colon [] (asBytes (t ++ ':' :: rest)).length ht rest
  by_cases hne : rest = []
  · obtain ⟨message, herr⟩ := htrailing hne
    cases herr.symm.trans hscan
  · rw [hmore hne] at hscan
    rcases scanFrom_cases ([] ++ (t ++ [':'])) rest hfuel with ⟨tail, hok, htail⟩ | ⟨_, herr⟩
    · rw [hok] at hscan
      cases hscan
      exact ⟨hne, tail, rfl, htail⟩
    · rw [herr] at hscan
      cases hscan

/-- A token by itself is the only one. -/
theorem AddrTokens.of_token {t : List Char} {tokens : List (List Char)} (ht : AddrToken t)
    (hne : t ≠ []) (h : AddrTokens t tokens) : tokens = [t] := by
  have hscan := h.scanFrom [] (Nat.le_succ _)
  rw [scanFrom_last [] _ ht hne] at hscan
  cases hscan
  rfl

theorem splitAddrTokens_eq_scanFrom (s : List Char) :
    splitAddrTokens s = scanFrom [] s (asBytes s).length := rfl

/-- The tokenizer accepts exactly the texts of the grammar and returns their
tokens. -/
theorem splitAddrTokens_eq_ok {s : List Char} {tokens : List (List Char)} :
    splitAddrTokens s = .ok tokens ↔ AddrTokens s tokens := by
  rw [splitAddrTokens_eq_scanFrom]
  constructor
  · intro h
    rcases scanFrom_cases [] s (Nat.le_refl _) with ⟨tokens', hok, htokens⟩ | ⟨message, herr⟩
    · cases hok.symm.trans h
      exact htokens
    · cases herr.symm.trans h
  · intro h
    exact h.scanFrom [] (Nat.le_refl _)

/-- The tokenizer never slices inside a character. -/
theorem splitAddrTokens_ne_abort (s : List Char) : splitAddrTokens s ≠ .error .abort := by
  rw [splitAddrTokens_eq_scanFrom]
  rcases scanFrom_cases [] s (Nat.le_refl _) with ⟨tokens, hok, -⟩ | ⟨message, herr⟩
  · simp [hok]
  · simp [herr]

end Rusnel
